import GuideXOS.Isa.CheckpointState
import GuideXOS.Isa.Step

/-!
# `Checkpoint` — saving a plugin and restoring it

`serializeCheckpointState` writes a plugin at a bundle boundary, section after section;
`deserializeCheckpointState` reads and validates the whole byte string before it touches the plugin, so it
either restores everything it has or changes nothing.

What a checkpoint lacks decides when a restored plugin is the saved one. `Restorable` lists it: the frames of
interruptions are not saved at all; the reader has limits the writer does not know; and a timer that was never
configured counts as configured once `CR.ITM` is not zero.
-/

/-!
## How long the sections of a checkpoint are

A checkpoint over 64 MiB is refused whatever it says. Its length is a sum over the sections: a fixed part, and
so many bytes for each entry of each sequence.
-/

namespace GuideXOS.Isa
open Lib Lib.Words Lib.Reader GuideXOS.Core

theorem length_putArray {α : Type} {put : α → List UInt8} {k n : Nat} (h : ∀ x, (put x).length = k)
    (v : Vector α n) : (putArray put v).length = n * k := by
  simp [putArray, List.length_flatMap, h]

theorem length_putEntries {α : Type} {put : α → List UInt8} {k : Nat} (h : ∀ x, (put x).length = k) (xs : List α) :
    (putList put xs).length = 8 + xs.length * k := by
  simp [length_putList, h]

theorem length_putCpu (cpu : CPUState) : (putCpu cpu).length = 26835 := by
  have hgr : ∀ c, (putGRCell c).length = 9 := fun c => by simp [putGRCell]
  have hfr : ∀ v : Vector UInt8 16, (putArray putU8 v).length = 16 := fun v => length_putArray length_putU8 v
  have htr : ∀ t, (putTranslation t).length = 33 := fun t => by simp [putTranslation]
  simp [putCpu, putTlbs, putRse, length_putArray hgr, length_putArray hfr, length_putArray htr,
    length_putArray length_putBool, length_putArray length_putU64]

theorem length_putExecution {I : Type _} (s : IA64ISAState I) :
    (putExecution s).length = 89 + s.pendingInterrupts.length := by
  simp [putExecution, length_putArray length_putBool]
  omega

def framesSize (f : RegisterFrames) : Nat :=
  24 + f.pendingCallInputs.length * 8 + f.callFrameStack.length * 784 + f.completedCallFrames.size * 792

theorem length_putFrames (f : RegisterFrames) : (putFrames f).length = framesSize f := by
  have hframe : ∀ x, (putFrame x).length = 784 := fun x => by simp [putFrame, length_putArray length_putU64]
  have hkeyed : ∀ x, (putKeyedFrame x).length = 792 := fun x => by simp [putKeyedFrame, hframe]
  simp [putFrames, framesSize, length_putEntries length_putU64, length_putEntries hframe,
    length_putEntries hkeyed, OrdMap.size]
  omega

variable (s : EfiServices)

theorem length_putConsoleInput (c : EfiCounters) (t : EfiTrace) (h : EfiHandoffState) :
    (putConsoleInput s c t h).length = 81 + t.lastEfiCallName.length + s.efiInputQueue.length * 16 := by
  have hkey : ∀ x, (putInputKey x).length = 16 := fun x => by simp [putInputKey]
  simp [putConsoleInput, length_putEntries hkey]
  omega

theorem length_putCounters (c : EfiCounters) : (putCounters s c).length = 304 := by
  simp [putCounters, length_putArray length_putU64]

def traceSize (t : EfiTrace) : Nat :=
  161 + t.lastEfiCallName.length + t.lastBranchTargets.length * 8 +
    (t.recentInstructions.map fun e => 24 + e.disasm.length).sum +
    (t.recentTrackedRegisterWrites.map fun e => 40 + e.disasm.length).sum + t.placementEvents.length * 56

theorem length_putTrace (t : EfiTrace) : (putTrace t).length = traceSize t := by
  have hinstruction : ∀ e, (putRecentInstruction e).length = 24 + e.disasm.length := fun e => by
    simp [putRecentInstruction]
    omega
  have hwrite : ∀ e, (putRecentWrite e).length = 40 + e.disasm.length := fun e => by
    simp [putRecentWrite]
    omega
  have hevent : ∀ e, (putPlacementEvent e).length = 56 := fun e => by simp [putPlacementEvent]
  simp only [putTrace, traceSize, List.flatten_cons, List.flatten_nil, List.length_append, List.length_nil,
    length_putU64, length_putBool, length_putBytes, length_putEntries length_putU64, length_putEntries hevent,
    length_putList putRecentInstruction, length_putList putRecentWrite, hinstruction, hwrite]
  omega

def fileSize (f : EfiFileHandle) : Nat :=
  57 + f.path.length + f.data.length + (f.directoryEntries.map fun e => 18 + e.name.length).sum

def protocolsSize (s : EfiServices) : Nat :=
  16 + s.efiProtocolAttachments.length * 32 + (s.efiFileHandles.entries.map fun e => fileSize e.2).sum

theorem length_putProtocols : (putProtocols s).length = protocolsSize s := by
  have hattachment : ∀ a, (putAttachment a).length = 32 := fun a => by
    simp [putAttachment, length_putArray length_putU8]
  have hentry : ∀ e, (putDirectoryEntry e).length = 18 + e.name.length := fun e => by
    simp [putDirectoryEntry]
    omega
  have hfile : ∀ e, (putFileHandle e).length = fileSize e.2 := fun e => by
    simp [putFileHandle, fileSize, length_putList, hentry]
    omega
  simp [putProtocols, protocolsSize, length_putEntries hattachment, length_putList, hfile]
  omega

def memoryStateSize (m : EfiMemoryState) (images : OrdMap UInt64 EfiLoadedImage) : Nat :=
  57 + m.efiMemoryMap.length * 28 + m.efiMemoryReservations.length * 20 + m.efiPageAllocations.length * 20 +
    m.efiPoolAllocations.length * 20 + images.size * 80

theorem length_putMemoryState (m : EfiMemoryState) (images : OrdMap UInt64 EfiLoadedImage) :
    (putMemoryState m images).length = memoryStateSize m images := by
  have hdescriptor : ∀ d, (putDescriptor d).length = 28 := fun d => by simp [putDescriptor]
  have hreservation : ∀ r, (putReservation r).length = 20 := fun r => by simp [putReservation]
  have hallocation : ∀ a, (putAllocation a).length = 20 := fun a => by simp [putAllocation]
  have himage : ∀ e, (putLoadedImage e).length = 80 := fun e => by simp [putLoadedImage]
  simp [putMemoryState, memoryStateSize, length_putEntries hdescriptor, length_putEntries hreservation,
    length_putEntries hallocation, length_putEntries himage, OrdMap.size]
  omega

theorem length_putHandoff (h : EfiHandoffState) (t : EfiTrace) (hasCachedInstruction : Bool) :
    (putHandoff s h t hasCachedInstruction).length = 79 + s.boot.efiBootImage.length := by
  simp [putHandoff]
  omega

end GuideXOS.Isa

namespace GuideXOS.Isa
open Lib Lib.Words Lib.Reader GuideXOS.Core

/-! ## The format -/

/-- `IA64`. -/
def checkpointMagic : List UInt8 := [0x49, 0x41, 0x36, 0x34]

def expectBytes : List UInt8 → Reader Unit
  | [] => return ()
  | expected :: rest => do
      let byte ← u8
      require (byte = expected)
      expectBytes rest

/-- Everything a checkpoint says. -/
structure RestoredCheckpoint where
  cpu : CPUState
  execution : RestoredExecution
  frames : RegisterFrames
  efiCurrentTpl : UInt64
  efiInputQueue : List EfiInputKey
  lastEfiDescriptorFieldAddress : UInt64
  efiNextSyntheticHandle : UInt64
  counters : EfiCounters
  trace : EfiTrace
  efiProtocolAttachments : List EfiProtocolAttachment
  efiFileHandles : OrdMap UInt64 EfiFileHandle
  memoryMap : EfiMemoryState
  efiLoadedImages : OrdMap UInt64 EfiLoadedImage
  handoff : RestoredHandoff
  interrupts : LocalInterrupts

/-- The parsing half of **`deserializeCheckpointState`**. -/
def readCheckpoint : Reader RestoredCheckpoint := do
  expectBytes checkpointMagic
  let version ← u32
  require (version = 2 ∨ version = 3 ∨ version = 4 ∨ version = kIA64CheckpointBlobVersion)
  let cpu ← readCpu version
  let execution ← readExecution
  let frames ← readFrames
  let consoleInput ← readConsoleInput
  let counters ← readCounters
  let trace ← readTrace
  let protocols ← readProtocols
  let memory ← readMemoryState
  let handoff ← readHandoff
  require (handoff.hasCachedInstruction = false)
  requireValid
  require (execution.bundleValid = false ∧ execution.currentSlot = 0)
  let interrupts ← readLocalInterrupts
  return {
    cpu, execution, frames, trace, handoff, interrupts
    efiCurrentTpl := consoleInput.1
    efiInputQueue := consoleInput.2
    lastEfiDescriptorFieldAddress := counters.1
    efiNextSyntheticHandle := counters.2.1
    counters := counters.2.2
    efiProtocolAttachments := protocols.1
    efiFileHandles := protocols.2
    memoryMap := memory.1
    efiLoadedImages := memory.2 }

namespace IA64ISAPlugin
variable {I : Type} (p : IA64ISAPlugin I)

def putCheckpoint : List UInt8 :=
  [checkpointMagic, putU32 kIA64CheckpointBlobVersion, putCpu p.cpu, putExecution p.state, putFrames p.frames,
    putConsoleInput p.services p.counters p.trace p.handoff, putCounters p.services p.counters, putTrace p.trace,
    putProtocols p.services, putMemoryState p.memoryMap p.services.efiLoadedImages,
    putHandoff p.services p.handoff p.trace p.hasCachedInstruction, putLocalInterrupts p.interrupts].flatten

/-- **`serializeCheckpointState`.** Empty unless the handoff has been reached and no bundle is in progress. -/
def serializeCheckpointState : List UInt8 :=
  if p.handoff.efiHandoffCheckpointConsumed = false ∨ p.hasCachedInstruction = true ∨
      p.state.bundleValid = true ∨ p.state.currentSlot ≠ 0 then []
  else p.putCheckpoint

/-- The committing half of **`deserializeCheckpointState`**. -/
def restoreCheckpoint (r : RestoredCheckpoint) : IA64ISAPlugin I where
  state := {
    cpu := r.cpu
    currentBundle := {}
    currentSlot := 0
    bundleValid := false
    predicateGroupSnapshot := r.execution.predicateGroupSnapshot
    pendingInterrupts := r.execution.pendingInterrupts
    interruptVectorBase := r.execution.interruptVectorBase }
  cachedInstruction := none
  -- the frames of interruptions stay as they are
  frames := { r.frames with interruptFrameStack := p.frames.interruptFrameStack }
  interrupts := { r.interrupts with
    intervalTimerConfigured := r.interrupts.intervalTimerConfigured || r.cpu.getCR IA64_CR_ITM != 0 }
  memoryMap := r.memoryMap
  handoff := r.handoff.handoff
  services := {
    efiCurrentTpl := r.efiCurrentTpl
    lastEfiDescriptorFieldAddress := r.lastEfiDescriptorFieldAddress
    efiProtocolAttachments := r.efiProtocolAttachments
    efiNextSyntheticHandle := r.efiNextSyntheticHandle
    efiFileHandles := r.efiFileHandles
    efiInputQueue := r.efiInputQueue
    efiLoadedImages := r.efiLoadedImages
    boot := ⟨r.handoff.efiBootImage, r.handoff.efiBootImageFromVmManager, none⟩ }
  counters := r.counters
  trace := { r.trace with
    pendingRegisterConfigEntryTarget := r.handoff.pendingRegisterConfigEntryTarget
    pendingRegisterConfigEntryCallsite := r.handoff.pendingRegisterConfigEntryCallsite
    pendingRegisterConfigEntryArmed := r.handoff.pendingRegisterConfigEntryArmed }

/-- The process-wide addresses are computed again from the layout that was saved. -/
def restoreHandoffGlobals (h : EfiHandoffState) (g : EfiHandoffGlobals) : EfiHandoffGlobals :=
  if h.efiHandoffLayoutInitialized then
    match tryComputeEfiHandoffLayout h.efiHandoffLayoutMemorySize with
    | some base => applyEfiHandoffLayoutBase base
    | none => resetEfiHandoffLayoutGlobals
  else g

/-- **`deserializeCheckpointState`.** `none` when it returns false. -/
def deserializeCheckpointState (g : EfiHandoffGlobals) (p : IA64ISAPlugin I) (data : List UInt8) :
    Option (EfiHandoffGlobals × IA64ISAPlugin I) :=
  if data.length > kMaxCheckpointBlobBytes then none
  else (readCheckpoint.parse data).map fun r => (restoreHandoffGlobals r.handoff.handoff g, p.restoreCheckpoint r)

/-! ## What the reader makes of a checkpoint -/

/-- The limits of the reader. -/
structure CheckpointFits (p : IA64ISAPlugin I) : Prop where
  pendingInterrupts : p.state.pendingInterrupts.length ≤ kMaxCheckpointVectorEntries
  frames : FramesFit p.frames
  consoleInput : p.services.efiInputQueue.length ≤ kMaxCheckpointVectorEntries
  trace : TraceFits p.trace
  protocols : ProtocolsFit p.services
  memory : MemoryStateFits p.memoryMap p.services.efiLoadedImages
  bootImage : p.services.boot.efiBootImage.length ≤ kMaxCheckpointBlobBytes

/-- What a checkpoint of `p` says. -/
def savedCheckpoint : RestoredCheckpoint where
  cpu := p.cpu
  execution := ⟨UInt64.ofNat p.state.currentSlot, p.state.bundleValid, p.state.predicateGroupSnapshot,
    p.state.interruptVectorBase, p.state.pendingInterrupts⟩
  frames := { p.frames with interruptFrameStack := [] }
  efiCurrentTpl := p.services.efiCurrentTpl
  efiInputQueue := p.services.efiInputQueue
  lastEfiDescriptorFieldAddress := p.services.lastEfiDescriptorFieldAddress
  efiNextSyntheticHandle := p.services.efiNextSyntheticHandle
  counters := p.counters
  trace := { p.trace with
    pendingRegisterConfigEntryTarget := 0
    pendingRegisterConfigEntryCallsite := 0
    pendingRegisterConfigEntryArmed := false }
  efiProtocolAttachments := p.services.efiProtocolAttachments
  efiFileHandles := p.services.efiFileHandles
  memoryMap := p.memoryMap
  efiLoadedImages := p.services.efiLoadedImages
  handoff := ⟨p.services.boot.efiBootImage, p.services.boot.efiBootImageFromVmManager, p.handoff,
    p.trace.pendingRegisterConfigEntryTarget, p.trace.pendingRegisterConfigEntryCallsite,
    p.trace.pendingRegisterConfigEntryArmed, p.hasCachedInstruction⟩
  interrupts := p.interrupts

theorem decodes_expectBytes (b : List UInt8) : Decodes (expectBytes b) b True () := by
  induction b with
  | nil => exact .pure
  | cons byte rest ih =>
      have h := (Decodes.u8 byte).bind (f := fun c => do
        require (c = byte)
        expectBytes rest) (.require_of rfl ih)
      exact h.congr (by simp)

/-- At a bundle boundary nothing is cached, and no bundle is in progress. -/
def AtBundleBoundary : Prop :=
  p.hasCachedInstruction = false ∧ p.state.bundleValid = false ∧ p.state.currentSlot = 0

theorem decodes_checkpoint {p : IA64ISAPlugin I} (h : p.AtBundleBoundary) :
    Decodes readCheckpoint p.putCheckpoint p.CheckpointFits p.savedCheckpoint := by
  obtain ⟨hcached, hvalid, hslot⟩ := h
  refine Decodes.congr ((decodes_expectBytes _).then <| (Decodes.u32 _).then <|
    .require_of (.inr (.inr (.inr rfl))) <| (decodes_cpu _).then <| (decodes_execution _).cons <|
    (decodes_frames _).cons <| (decodes_consoleInput _ _ _ _).cons <| (decodes_counters _ _).then <|
    (decodes_trace _).cons <| (decodes_protocols _).cons <| (decodes_memoryState _ _).cons <|
    (decodes_handoff _ _ _ _).cons <| .require_of hcached <| .requireValid <|
    .require_of ⟨hvalid, congrArg UInt64.ofNat hslot⟩ (decodes_localInterrupts _).last) ?_
  constructor
  · rintro ⟨hpending, hframes, ⟨_, hinput⟩, htrace, hprotocols, hmemory, himage, _⟩
    exact ⟨hpending, hframes, hinput, htrace, hprotocols, hmemory, himage⟩
  · rintro ⟨hpending, hframes, hinput, htrace, hprotocols, hmemory, himage⟩
    exact ⟨hpending, hframes, ⟨htrace.callName, hinput⟩, htrace, hprotocols, hmemory, himage, trivial⟩

/-- How long the checkpoint of a plugin is. -/
def checkpointSize : Nat :=
  27400 + p.state.pendingInterrupts.length + framesSize p.frames + p.trace.lastEfiCallName.length +
    p.services.efiInputQueue.length * 16 + traceSize p.trace + protocolsSize p.services +
    memoryStateSize p.memoryMap p.services.efiLoadedImages + p.services.boot.efiBootImage.length

theorem length_putCheckpoint : p.putCheckpoint.length = p.checkpointSize := by
  have hmagic : checkpointMagic.length = 4 := rfl
  have hinterrupts : (putLocalInterrupts p.interrupts).length = 4 := rfl
  simp only [putCheckpoint, checkpointSize, List.flatten_cons, List.flatten_nil, List.length_append,
    List.length_nil, hmagic, hinterrupts, length_putU32, length_putCpu, length_putExecution, length_putFrames,
    length_putConsoleInput, length_putCounters, length_putTrace, length_putProtocols, length_putMemoryState,
    length_putHandoff]
  omega

theorem deserializeCheckpointState_putCheckpoint {p : IA64ISAPlugin I} (h : p.AtBundleBoundary)
    (g : EfiHandoffGlobals) (q : IA64ISAPlugin I) :
    (p.checkpointSize ≤ kMaxCheckpointBlobBytes ∧ p.CheckpointFits →
      q.deserializeCheckpointState g p.putCheckpoint =
        some (restoreHandoffGlobals p.handoff g, q.restoreCheckpoint p.savedCheckpoint)) ∧
    (¬ (p.checkpointSize ≤ kMaxCheckpointBlobBytes ∧ p.CheckpointFits) →
      q.deserializeCheckpointState g p.putCheckpoint = none) := by
  unfold deserializeCheckpointState
  rw [length_putCheckpoint]
  by_cases hsize : p.checkpointSize ≤ kMaxCheckpointBlobBytes
  · have hlen : p.putCheckpoint.length < 2 ^ 64 := by
      rw [length_putCheckpoint]
      exact Nat.lt_of_le_of_lt hsize (by decide)
    obtain ⟨hparse, hrefuse⟩ := (decodes_checkpoint h).parse hlen
    rw [if_neg (Nat.not_lt.mpr hsize)]
    constructor
    · rintro ⟨_, hfits⟩
      rw [hparse hfits]
      rfl
    · intro hn
      rw [hrefuse fun hfits => hn ⟨hsize, hfits⟩]
      rfl
  · rw [if_pos (Nat.not_le.mp hsize)]
    exact ⟨fun hfits => absurd hfits.1 hsize, fun _ => rfl⟩

/-! ## When the restored plugin is the saved one -/

/-- **What it takes for `q` to become `p`.** -/
structure Restorable (parseFat : List UInt8 → Bool) (p q : IA64ISAPlugin I) : Prop where
  size : p.checkpointSize ≤ kMaxCheckpointBlobBytes
  fits : p.CheckpointFits
  interruptFrames : q.frames.interruptFrameStack = p.frames.interruptFrameStack
  timer : p.interrupts.intervalTimerConfigured = true ∨ p.cpu.getCR IA64_CR_ITM = 0
  volume : p.services.boot.Remountable parseFat

/-- The restored plugin has everything of the saved one but its interruption frames; a timer whose match
    register is not zero counts as configured. -/
theorem restoreCheckpoint_savedCheckpoint {p : IA64ISAPlugin I} (h : p.AtBundleBoundary) (q : IA64ISAPlugin I) :
    q.restoreCheckpoint p.savedCheckpoint = { p.withTransient {} none with
      frames := { p.frames with interruptFrameStack := q.frames.interruptFrameStack }
      interrupts := { p.interrupts with
        intervalTimerConfigured := p.interrupts.intervalTimerConfigured || p.cpu.getCR IA64_CR_ITM != 0 } } := by
  obtain ⟨hcached, hvalid, hslot⟩ := h
  obtain ⟨⟨cpu, bundle, slot, valid, snapshot, pending, base⟩, cached, frames, interrupts, memoryMap, handoff,
    services, counters, trace⟩ := p
  obtain rfl : cached = none := Option.isNone_iff_eq_none.mp (by simpa [hasCachedInstruction] using hcached)
  obtain rfl : valid = false := hvalid
  obtain rfl : slot = 0 := hslot
  rfl

theorem sameMachine_restored_iff {parseFat : List UInt8 → Bool} {p : IA64ISAPlugin I} (h : p.AtBundleBoundary)
    (q : IA64ISAPlugin I) :
    SameMachine parseFat (q.restoreCheckpoint p.savedCheckpoint) p ↔
      q.frames.interruptFrameStack = p.frames.interruptFrameStack ∧
      (p.interrupts.intervalTimerConfigured = true ∨ p.cpu.getCR IA64_CR_ITM = 0) ∧
      p.services.boot.Remountable parseFat := by
  rw [restoreCheckpoint_savedCheckpoint h q]
  constructor
  · rintro ⟨bundle, fat, heq, _, hvolume⟩
    have hframes := congrArg (fun r => r.frames.interruptFrameStack) heq
    have htimer := congrArg (fun r => r.interrupts.intervalTimerConfigured) heq
    refine ⟨hframes, ?_, sameVolume_forget_iff.mp hvolume⟩
    change (p.interrupts.intervalTimerConfigured || p.cpu.getCR IA64_CR_ITM != 0) =
      p.interrupts.intervalTimerConfigured at htimer
    cases hconfigured : p.interrupts.intervalTimerConfigured with
    | true => exact .inl rfl
    | false =>
        rw [hconfigured] at htimer
        exact .inr (by simpa using htimer)
  · rintro ⟨hframes, htimer, hvolume⟩
    have hconfigured : (p.interrupts.intervalTimerConfigured || p.cpu.getCR IA64_CR_ITM != 0) =
        p.interrupts.intervalTimerConfigured := by
      rcases htimer with htrue | hzero
      · rw [htrue, Bool.true_or]
      · rw [hzero]
        simp
    rw [hframes, hconfigured]
    refine ⟨{}, none, rfl, fun hvalid => ?_, sameVolume_forget_iff.mpr hvolume⟩
    rw [h.2.1] at hvalid
    cases hvalid

theorem atBundleBoundary_of_serialize {p : IA64ISAPlugin I} (h : p.serializeCheckpointState ≠ []) :
    p.AtBundleBoundary ∧ p.serializeCheckpointState = p.putCheckpoint := by
  unfold serializeCheckpointState at h ⊢
  split at h
  · exact absurd rfl h
  · next hn =>
    simp only [not_or, Bool.not_eq_true, not_not] at hn
    exact ⟨⟨hn.2.1, hn.2.2.1, hn.2.2.2⟩, if_neg (by simpa using hn)⟩

end IA64ISAPlugin

/-! ## The round trip -/

/-- **Checkpoint round trip.** A checkpoint of `p` makes `q` the same machine as `p` exactly when `p` is
    restorable into `q`, and then no run of further steps over the same memory tells the two apart. -/
theorem checkpoint_roundTrip_iff {I : Type} (parseFat : List UInt8 → Bool) (g : EfiHandoffGlobals)
    (p q : IA64ISAPlugin I) (hsaved : p.serializeCheckpointState ≠ []) :
    ((∃ g' q', q.deserializeCheckpointState g p.serializeCheckpointState = some (g', q') ∧
        SameMachine parseFat q' p) ↔ p.Restorable parseFat q) ∧
      (p.Restorable parseFat q → ∀ g' q',
        q.deserializeCheckpointState g p.serializeCheckpointState = some (g', q') →
        ∀ {M : Type} [IMemory M] (decodeBundleAt : List UInt8 → UInt64 → Option (Bundle I)) (execute : Execute I M),
          Respects parseFat execute → ∀ (n : Nat) (globals : EfiHandoffGlobals) (memory : M),
            (runSteps decodeBundleAt execute n ⟨globals, q', memory⟩).1 =
                (runSteps decodeBundleAt execute n ⟨globals, p, memory⟩).1 ∧
              SameRun parseFat (runSteps decodeBundleAt execute n ⟨globals, q', memory⟩).2
                (runSteps decodeBundleAt execute n ⟨globals, p, memory⟩).2) := by
  obtain ⟨hboundary, hbytes⟩ := IA64ISAPlugin.atBundleBoundary_of_serialize hsaved
  obtain ⟨hrestores, hrefuses⟩ := IA64ISAPlugin.deserializeCheckpointState_putCheckpoint hboundary g q
  have hsame : SameMachine parseFat _ p ↔ _ := IA64ISAPlugin.sameMachine_restored_iff hboundary q
  rw [hbytes]
  refine ⟨⟨?_, ?_⟩, ?_⟩
  · rintro ⟨g', q', hresult, hmachine⟩
    by_cases hfits : p.checkpointSize ≤ kMaxCheckpointBlobBytes ∧ p.CheckpointFits
    · rw [hrestores hfits] at hresult
      obtain ⟨-, rfl⟩ := Prod.mk.inj (Option.some.inj hresult)
      obtain ⟨hframes, htimer, hvolume⟩ := hsame.mp hmachine
      exact ⟨hfits.1, hfits.2, hframes, htimer, hvolume⟩
    · rw [hrefuses hfits] at hresult
      cases hresult
  · intro h
    exact ⟨_, _, hrestores ⟨h.size, h.fits⟩, hsame.mpr ⟨h.interruptFrames, h.timer, h.volume⟩⟩
  · intro h g' q' hresult M _ decodeBundleAt execute hexec n globals memory
    rw [hrestores ⟨h.size, h.fits⟩] at hresult
    obtain ⟨-, rfl⟩ := Prod.mk.inj (Option.some.inj hresult)
    have hmachine := hsame.mpr ⟨h.interruptFrames, h.timer, h.volume⟩
    exact runSteps_sameMachine hexec n ⟨rfl, hmachine, rfl⟩

/-- A plugin whose handoff has been reached, with an interrupt request waiting. -/
def atKernelEntry : IA64ISAPlugin Unit :=
  { (IA64ISAPlugin.construct resetEfiHandoffLayoutGlobals).setPending [0x20] with
    handoff := { efiHandoffCheckpointConsumed := true } }

theorem checkpoint_roundTrip_at_kernel_entry :
    ∃ g' q', (IA64ISAPlugin.construct resetEfiHandoffLayoutGlobals).deserializeCheckpointState
        resetEfiHandoffLayoutGlobals atKernelEntry.serializeCheckpointState = some (g', q') ∧
      SameMachine (fun _ => false) q' atKernelEntry := by
  have hsaved : atKernelEntry.serializeCheckpointState ≠ [] := by
    show atKernelEntry.putCheckpoint ≠ []
    simp [IA64ISAPlugin.putCheckpoint, checkpointMagic]
  have hprotocols : ProtocolsFit atKernelEntry.services := by
    refine ⟨by decide, by decide, fun e he => ?_⟩
    cases he
  refine (checkpoint_roundTrip_iff (fun _ => false) resetEfiHandoffLayoutGlobals atKernelEntry
    (IA64ISAPlugin.construct resetEfiHandoffLayoutGlobals) hsaved).1.mpr ⟨by decide +kernel, ?_, rfl, .inr rfl, .inl rfl⟩
  exact ⟨by decide, ⟨by decide, by decide, by decide⟩, by decide, ⟨by decide, by decide, by decide, by decide, by decide⟩,
    hprotocols, ⟨by decide, by decide, by decide, by decide, by decide⟩, by decide⟩

/-- The same plugin once the request has been accepted: its handler is about to run. -/
def inHandler : IA64ISAPlugin Unit := atKernelEntry.enterExternalInterrupt 0x20

/-- **Not in a handler.** The frame of the interrupted procedure is lost: the restored plugin has no frame
    for `rfi` to give back. -/
theorem checkpoint_not_roundTrip_in_handler :
    inHandler.serializeCheckpointState ≠ [] ∧
      ∃ g' q', (IA64ISAPlugin.construct resetEfiHandoffLayoutGlobals).deserializeCheckpointState
          resetEfiHandoffLayoutGlobals inHandler.serializeCheckpointState = some (g', q') ∧
        inHandler.frames.interruptFrameStack.length = 1 ∧ q'.frames.interruptFrameStack = [] ∧
        ¬ SameMachine (fun _ => false) q' inHandler := by
  have hboundary : inHandler.AtBundleBoundary := ⟨rfl, rfl, rfl⟩
  have hprotocols : ProtocolsFit inHandler.services := by
    refine ⟨by decide, by decide, fun e he => ?_⟩
    cases he
  have hfits : inHandler.checkpointSize ≤ kMaxCheckpointBlobBytes ∧ inHandler.CheckpointFits :=
    ⟨by decide +kernel, by decide, ⟨by decide, by decide, by decide⟩, by decide,
      ⟨by decide, by decide, by decide, by decide, by decide⟩, hprotocols,
      ⟨by decide, by decide, by decide, by decide, by decide⟩, by decide⟩
  refine ⟨?_, _, _, (IA64ISAPlugin.deserializeCheckpointState_putCheckpoint hboundary resetEfiHandoffLayoutGlobals
    (IA64ISAPlugin.construct resetEfiHandoffLayoutGlobals)).1 hfits, rfl, rfl, ?_⟩
  · show inHandler.putCheckpoint ≠ []
    simp [IA64ISAPlugin.putCheckpoint, checkpointMagic]
  · intro hsame
    have hframes := ((IA64ISAPlugin.sameMachine_restored_iff hboundary
      (IA64ISAPlugin.construct resetEfiHandoffLayoutGlobals)).mp hsame).1
    cases hframes

end GuideXOS.Isa
