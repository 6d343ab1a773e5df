import GuideXOS.Lib.Stamps
import GuideXOS.Isa.EfiMapChange
import GuideXOS.Isa.Checkpoint

/-!
# `EfiMapKey` — the key a memory map is reported under

`GetMemoryMap` reports the descriptors together with a map key, and a boot loader that holds a key takes it for
the map it came with. Every change by a service gives the map a new key (`EfiMapChange`), but building the map
starts over with key 1, and a restored checkpoint brings its own.

A `MapKeyMonitor` is a plugin with everything it has reported so far. `KeepsKeysFresh` says what an operation
must find so that no key comes to stand for two maps; `mapKey_faithful` is the run.
-/

namespace GuideXOS.Isa
open Lib Lib.Words Lib.Runs Lib.Reader Lib.Stamps GuideXOS.Core

/-! ## Reporting the map -/

def EFI_STATUS_BUFFER_TOO_SMALL : UInt64 := 0x8000000000000005

def EfiCounters.countGetMemoryMap (c : EfiCounters) : EfiCounters :=
  { c with efiGetMemoryMapCalls := c.efiGetMemoryMapCalls + 1 }

/-- A descriptor in guest memory: type and padding, physical and virtual start, pages, attributes. -/
def descriptorFields (address : UInt64) (d : EfiMemoryDescriptor) : List (Nat × UInt64 × UInt64) :=
  [(4, address, d.type.toUInt64), (4, address + 0x04, 0), (8, address + 0x08, d.physicalStart),
    (8, address + 0x10, 0), (8, address + 0x18, d.numberOfPages), (8, address + 0x20, d.attributes)]

section GetMemoryMap
variable {I M : Type} [IMemory M]

/-- **`handleEfiGetMemoryMap`.** The key is handed out even where the buffer is too small for the map. -/
def handleEfiGetMemoryMap (g : EfiHandoffGlobals) (p : IA64ISAPlugin I) (memory : M) :
    UInt64 × IA64ISAPlugin I × M :=
  let p := p.setCounters p.counters.countGetMemoryMap
  let memoryMapSizeAddress := readCallerOutputRegister p.cpu 0
  let memoryMapAddress := readCallerOutputRegister p.cpu 1
  let mapKeyAddress := readCallerOutputRegister p.cpu 2
  let descriptorSizeAddress := readCallerOutputRegister p.cpu 3
  let descriptorVersionAddress := readCallerOutputRegister p.cpu 4
  if memoryMapSizeAddress = 0 then (EFI_STATUS_INVALID_PARAMETER, p, memory)
  else
    let (ready, p) := ensureEfiMemoryMap g p memory
    if !ready then (EFI_STATUS_OUT_OF_RESOURCES, p, memory)
    else
      let descriptorSize : UInt64 := 40
      let descriptorVersion : UInt64 := 1
      let map := p.memoryMap.efiMemoryMap
      let requiredSize := descriptorSize * UInt64.ofNat map.length
      match readGuestU64 memory memoryMapSizeAddress with
      | none => (EFI_STATUS_INVALID_PARAMETER, p, memory)
      | some provided =>
          match writeGuestFields memory ([(8, memoryMapSizeAddress, requiredSize)] ++
              (if descriptorSizeAddress ≠ 0 then [(8, descriptorSizeAddress, descriptorSize)] else []) ++
              (if descriptorVersionAddress ≠ 0 then [(4, descriptorVersionAddress, descriptorVersion)] else []) ++
              (if mapKeyAddress ≠ 0 then [(8, mapKeyAddress, p.memoryMap.efiMemoryMapKey)] else [])) with
          | (false, memory) => (EFI_STATUS_INVALID_PARAMETER, p, memory)
          | (true, memory) =>
              if memoryMapAddress = 0 ∨ provided < requiredSize then (EFI_STATUS_BUFFER_TOO_SMALL, p, memory)
              else
                match writeGuestFields memory (map.zipIdx.flatMap fun e =>
                    descriptorFields (memoryMapAddress + descriptorSize * UInt64.ofNat e.2) e.1) with
                | (false, memory) => (EFI_STATUS_INVALID_PARAMETER, p, memory)
                | (true, memory) => (EFI_STATUS_SUCCESS, p, memory)

/-- Reporting the map changes it only where it builds it. -/
theorem memoryMap_getMemoryMap {g : EfiHandoffGlobals} {p : IA64ISAPlugin I} {memory : M}
    (h : p.memoryMap.BuiltFor (getTotalSize memory)) :
    (handleEfiGetMemoryMap g p memory).2.1.memoryMap = p.memoryMap := by
  unfold handleEfiGetMemoryMap
  dsimp only
  split
  · rfl
  rw [ensureEfiMemoryMap_of_builtFor (p := p.setCounters p.counters.countGetMemoryMap) g h]
  dsimp only
  split
  · rfl
  split
  · rfl
  split
  · rfl
  split
  · rfl
  split <;> rfl

end GetMemoryMap

/-! ## The other operations on the map -/

namespace IA64ISAPlugin
variable {I : Type}

variable (p : IA64ISAPlugin I)

/-- **`setBootImageBackingStore`.** A map that is built gets the image as one more range. Otherwise, and for an
    empty image, the map is to be built again. -/
def setBootImageBackingStore (bootImage : List UInt8) : IA64ISAPlugin I :=
  let p := { p with services := { p.services with boot := ⟨bootImage, true, none⟩ } }
  let m := p.memoryMap
  if m.efiMemoryMapInitialized ∧ bootImage ≠ [] then
    let alignedSize := (UInt64.ofNat bootImage.length + EFI_PAGE_SIZE - 1) &&& ~~~(EFI_PAGE_SIZE - 1)
    let pages := alignedSize / EFI_PAGE_SIZE
    if pages ≠ 0 ∧ EFI_BOOT_IMAGE_GUEST_BASE ≤ UINT64_MAX - alignedSize then
      match replaceEfiMemoryMapRange m.efiMemoryMap EFI_BOOT_IMAGE_GUEST_BASE pages
          EFI_MEMORY_BOOT_SERVICES_CODE with
      | none => p
      | some map =>
          p.setMemoryMap { m with efiMemoryMap := map, efiMemoryMapKey := m.efiMemoryMapKey + 1 }
    else p
  else
    p.setMemoryMap { m with
      efiMemoryMapInitialized := false
      efiMemoryMap := []
      efiPageAllocations := []
      efiPoolAllocations := []
      efiMemoryMapKey := 1 }

/-- **`reserveEfiMemoryRange`.** Refused once the map is built, so that no map key is invalidated silently. -/
def reserveEfiMemoryRange (physicalStart size : UInt64) (memoryType : UInt32) : Bool × IA64ISAPlugin I :=
  let pageSize := EFI_PAGE_SIZE
  if size = 0 ∨ physicalStart > UINT64_MAX - size then (false, p)
  else
    let alignedStart := physicalStart &&& ~~~(pageSize - 1)
    let requestedEnd := physicalStart + size
    if requestedEnd > UINT64_MAX - (pageSize - 1) then (false, p)
    else
      let alignedEnd := (requestedEnd + pageSize - 1) &&& ~~~(pageSize - 1)
      if alignedStart ≥ alignedEnd then (false, p)
      else if p.memoryMap.efiMemoryMapInitialized then (false, p)
      else
        let reservation : EfiMemoryReservation :=
          ⟨memoryType, alignedStart, (alignedEnd - alignedStart) / pageSize⟩
        if reservation ∈ p.memoryMap.efiMemoryReservations then (true, p)
        else (true, p.setMemoryMap { p.memoryMap with
          efiMemoryReservations := p.memoryMap.efiMemoryReservations ++ [reservation] })

/-- The memory map as a boot loader sees it: the key and the descriptors. -/
def reportedMap : UInt64 × List EfiMemoryDescriptor :=
  (p.memoryMap.efiMemoryMapKey, p.memoryMap.efiMemoryMap)

end IA64ISAPlugin

/-! ## Runs with a history -/

/-- A plugin, and every key and map it has reported, latest first. -/
structure MapKeyMonitor (I : Type) where
  plugin : IA64ISAPlugin I
  reports : List (UInt64 × List EfiMemoryDescriptor) := []

/-- What can happen between two resets. Everything else a plugin does leaves the memory map alone and may change
    the rest in any way. -/
inductive MapKeyOp (I M : Type) where
  | service (call : EfiMapCall M)
  | getMemoryMap (globals : EfiHandoffGlobals) (cpu : CPUState) (memory : M)
  | setBootImageBackingStore (bootImage : List UInt8)
  | reserveEfiMemoryRange (physicalStart size : UInt64) (memoryType : UInt32)
  | ensureEfiHandoffLayout (globals : EfiHandoffGlobals) (memorySize : UInt64)
  | restore (globals : EfiHandoffGlobals) (data : List UInt8)
  | elsewhere (plugin : IA64ISAPlugin I)

namespace MapKeyMonitor
variable {I M : Type} [IMemory M]

def setPlugin (m : MapKeyMonitor I) (p : IA64ISAPlugin I) : MapKeyMonitor I := { m with plugin := p }

/-- A call that succeeds reports the map it finds. -/
def getMemoryMap (m : MapKeyMonitor I) (g : EfiHandoffGlobals) (cpu : CPUState) (memory : M) : MapKeyMonitor I :=
  let r := handleEfiGetMemoryMap g (m.plugin.setCpu cpu) memory
  ⟨r.2.1, if r.1 = EFI_STATUS_SUCCESS then r.2.1.reportedMap :: m.reports else m.reports⟩

def step (m : MapKeyMonitor I) : MapKeyOp I M → MapKeyMonitor I
  | .service call => m.setPlugin (EfiMapCall.step m.plugin call)
  | .getMemoryMap g cpu memory => m.getMemoryMap g cpu memory
  | .setBootImageBackingStore bootImage => m.setPlugin (m.plugin.setBootImageBackingStore bootImage)
  | .reserveEfiMemoryRange physicalStart size memoryType =>
      m.setPlugin (m.plugin.reserveEfiMemoryRange physicalStart size memoryType).2
  | .ensureEfiHandoffLayout g memorySize => m.setPlugin (m.plugin.ensureEfiHandoffLayout memorySize g).2
  | .restore g data =>
      match m.plugin.deserializeCheckpointState g data with
      | none => m
      | some r => m.setPlugin r.2
  | .elsewhere p => m.setPlugin (p.setMemoryMap m.plugin.memoryMap)

end MapKeyMonitor

/-- The reports with their keys as numbers. -/
def stamps (reports : List (UInt64 × List EfiMemoryDescriptor)) : List (Nat × List EfiMemoryDescriptor) :=
  reports.map fun r => (r.1.toNat, r.2)

/-- The present key and map agree with everything reported. -/
def EfiMemoryState.AgreesWith (m : EfiMemoryState) (reports : List (UInt64 × List EfiMemoryDescriptor)) : Prop :=
  Current (stamps reports) m.efiMemoryMapKey.toNat m.efiMemoryMap

/-- The key can go up by four, which is the most one call takes. -/
def EfiMemoryState.KeyRoom (m : EfiMemoryState) : Prop := m.efiMemoryMapKey.toNat + 4 < 2 ^ 64

/-- **What an operation must find** once something has been reported: a map that is built for the guest memory it
    works on, a key that does not wrap around, and in a checkpoint no older key than those reported. -/
def KeepsKeysFresh {I M : Type} [IMemory M] (m : MapKeyMonitor I) (op : MapKeyOp I M) : Prop :=
  m.reports = [] ∨
    match op with
    | .service call => m.plugin.memoryMap.BuiltFor (getTotalSize call.memory) ∧ m.plugin.memoryMap.KeyRoom
    | .getMemoryMap _ _ memory => m.plugin.memoryMap.BuiltFor (getTotalSize memory)
    | .setBootImageBackingStore _ => m.plugin.memoryMap.KeyRoom
    | .restore _ data => ∀ r, readCheckpoint.parse data = some r →
        r.memoryMap.efiMemoryMapInitialized = true → r.memoryMap.AgreesWith m.reports
    | _ => True

/-- **The invariant.** -/
structure MapKeyInvariant {I : Type} (m : MapKeyMonitor I) : Prop where
  faithful : Faithful (stamps m.reports)
  current : m.plugin.memoryMap.efiMemoryMapInitialized = true → m.plugin.memoryMap.AgreesWith m.reports

/-! ## One step -/

namespace EfiMemoryState
variable {m m' : EfiMemoryState} {reports : List (UInt64 × List EfiMemoryDescriptor)}

theorem agreesWith_nil : m.AgreesWith [] := Current.nil

/-- The map key goes up by the number of changes. -/
theorem key_of_changes {n : Nat} (h : EfiMapChanges n m m') : ∃ k ≤ n,
    m'.efiMemoryMapKey = m.efiMemoryMapKey + UInt64.ofNat k ∧ (k = 0 → m' = m) := by
  induction h with
  | refl m => exact ⟨0, Nat.zero_le _, (UInt64.add_zero _).symm, fun _ => rfl⟩
  | step _ hchange ih =>
      obtain ⟨k, hle, hkey, _⟩ := ih
      refine ⟨k + 1, Nat.succ_le_succ hle, ?_, fun hzero => absurd hzero (Nat.succ_ne_zero k)⟩
      rw [hchange.common.2.2, hkey, UInt64.ofNat_add, UInt64.add_assoc]
      rfl

/-- **A key that goes up** agrees with every report. -/
theorem AgreesWith.advance (h : m.AgreesWith reports) {k : Nat} (hpos : 0 < k) (hle : k ≤ 4)
    (hroom : m.KeyRoom) (hkey : m'.efiMemoryMapKey = m.efiMemoryMapKey + UInt64.ofNat k) : m'.AgreesWith reports := by
  refine Current.advance h ?_
  unfold KeyRoom at hroom
  have hk : (UInt64.ofNat k).toNat = k := by
    rw [UInt64.toNat_ofNat']
    omega
  rw [hkey, UInt64.toNat_add, hk, Nat.mod_eq_of_lt (by omega)]
  omega

theorem AgreesWith.changes (h : m.AgreesWith reports) (hroom : m.KeyRoom) (hchanges : EfiMapChanges 4 m m') :
    m'.AgreesWith reports := by
  obtain ⟨k, hle, hkey, hsame⟩ := key_of_changes hchanges
  rcases Nat.eq_zero_or_pos k with rfl | hpos
  · rw [hsame rfl]
    exact h
  · exact h.advance hpos hle hroom hkey

end EfiMemoryState

namespace MapKeyInvariant
variable {I M : Type} [IMemory M] {m : MapKeyMonitor I} {p : IA64ISAPlugin I}

section
variable (h : MapKeyInvariant m)
include h

/-- A step that reports nothing. -/
theorem setPlugin (hp : p.memoryMap.efiMemoryMapInitialized = true → p.memoryMap.AgreesWith m.reports) :
    MapKeyInvariant (m.setPlugin p) := ⟨h.faithful, hp⟩

/-- Before anything is reported every step is harmless. -/
theorem setPlugin_of_nil (hnil : m.reports = []) : MapKeyInvariant (m.setPlugin p) := by
  refine h.setPlugin fun _ => ?_
  rw [hnil]
  exact EfiMemoryState.agreesWith_nil

theorem getMemoryMap (g : EfiHandoffGlobals) (cpu : CPUState) (memory : M)
    (hfresh : m.reports = [] ∨ m.plugin.memoryMap.BuiltFor (getTotalSize memory)) :
    MapKeyInvariant (m.getMemoryMap g cpu memory) := by
  have hagrees : (handleEfiGetMemoryMap g (m.plugin.setCpu cpu) memory).2.1.memoryMap.AgreesWith m.reports := by
    rcases hfresh with hnil | hbuilt
    · rw [hnil]
      exact EfiMemoryState.agreesWith_nil
    · rw [memoryMap_getMemoryMap (p := m.plugin.setCpu cpu) hbuilt]
      exact h.current hbuilt.initialized
  unfold MapKeyMonitor.getMemoryMap
  dsimp only
  split
  · exact ⟨Faithful.report h.faithful hagrees, fun _ => Current.report hagrees⟩
  · exact ⟨h.faithful, fun _ => hagrees⟩

theorem setBootImageBackingStore (hroom : m.plugin.memoryMap.KeyRoom) (bootImage : List UInt8) :
    MapKeyInvariant (m.setPlugin (m.plugin.setBootImageBackingStore bootImage)) := by
  refine h.setPlugin fun hinit => ?_
  unfold IA64ISAPlugin.setBootImageBackingStore at hinit ⊢
  dsimp only at hinit ⊢
  split at hinit
  · next hbuilt =>
    rw [if_pos hbuilt]
    split
    · split
      · exact h.current hbuilt.1
      · exact (h.current hbuilt.1).advance (k := 1) (by decide) (by decide) hroom rfl
    · exact h.current hbuilt.1
  · -- a map that is to be built again owes nothing yet
    cases hinit

theorem reserveEfiMemoryRange (physicalStart size : UInt64) (memoryType : UInt32) :
    MapKeyInvariant (m.setPlugin (m.plugin.reserveEfiMemoryRange physicalStart size memoryType).2) := by
  refine h.setPlugin ?_
  unfold IA64ISAPlugin.reserveEfiMemoryRange
  dsimp only
  split
  · exact h.current
  split
  · exact h.current
  split
  · exact h.current
  split
  · exact h.current
  split
  · exact h.current
  · exact h.current

theorem ensureEfiHandoffLayout (g : EfiHandoffGlobals) (memorySize : UInt64) :
    MapKeyInvariant (m.setPlugin (m.plugin.ensureEfiHandoffLayout memorySize g).2) := by
  refine h.setPlugin fun hinit => ?_
  unfold IA64ISAPlugin.ensureEfiHandoffLayout at hinit ⊢
  split
  · next hsame =>
    rw [if_pos hsame] at hinit
    exact h.current hinit
  next hsame =>
  rw [if_neg hsame] at hinit
  split at hinit
  · cases hinit
  · split at hinit
    · cases hinit
    · cases hinit

end

/-- **Step lemma.** -/
theorem step [LawfulIMemory M] {op : MapKeyOp I M} (h : MapKeyInvariant m) (hop : KeepsKeysFresh m op) :
    MapKeyInvariant (m.step op) := by
  cases op with
  | service call =>
      rcases hop with hnil | ⟨hbuilt, hroom⟩
      · exact h.setPlugin_of_nil hnil
      · exact h.setPlugin fun _ => (h.current hbuilt.initialized).changes hroom (changes_step hbuilt)
  | getMemoryMap g cpu memory => exact h.getMemoryMap g cpu memory hop
  | setBootImageBackingStore bootImage =>
      rcases hop with hnil | hroom
      · exact h.setPlugin_of_nil hnil
      · exact h.setBootImageBackingStore hroom bootImage
  | reserveEfiMemoryRange physicalStart size memoryType =>
      exact h.reserveEfiMemoryRange physicalStart size memoryType
  | ensureEfiHandoffLayout g memorySize => exact h.ensureEfiHandoffLayout g memorySize
  | restore g data =>
      unfold MapKeyMonitor.step
      dsimp only
      split
      · exact h
      next r hr =>
      rcases hop with hnil | hfresh
      · exact h.setPlugin_of_nil hnil
      · unfold IA64ISAPlugin.deserializeCheckpointState at hr
        split at hr
        · cases hr
        · obtain ⟨restored, hparse, rfl⟩ := Option.map_eq_some_iff.mp hr
          exact h.setPlugin (hfresh restored hparse)
  | elsewhere p => exact h.setPlugin h.current

end MapKeyInvariant

/-! ## The run -/

/-- **One key, one map.** In every run from a plugin that has reported nothing whose operations all keep the keys
    fresh, two reports under one key show the same descriptors. -/
theorem mapKey_faithful {I M : Type} [IMemory M] [LawfulIMemory M] (p : IA64ISAPlugin I) (ops : List (MapKeyOp I M))
    (hops : EveryStep MapKeyMonitor.step KeepsKeysFresh ⟨p, []⟩ ops) :
    ∀ r ∈ (run MapKeyMonitor.step ⟨p, []⟩ ops).reports, ∀ r' ∈ (run MapKeyMonitor.step ⟨p, []⟩ ops).reports,
      r.1 = r'.1 → r.2 = r'.2 := by
  have hstart : MapKeyInvariant (⟨p, []⟩ : MapKeyMonitor I) := ⟨Faithful.nil, fun _ => Current.nil⟩
  have hend := run_invariant MapKeyInvariant (fun _ _ h hop => h.step hop) hstart hops
  intro r hr r' hr' hkey
  exact hend.faithful _ (List.mem_map_of_mem hr) _ (List.mem_map_of_mem hr') (congrArg UInt64.toNat hkey)

/-! ## Two loaders -/

/-- Half a gibibyte of guest memory. It is zero but for the buffer size a loader left at `0x200000`. -/
def loaderMemory : SparseMemory := ⟨0x20000000, fun x => if x = 0x200001 then 1 else 0⟩

/-- A loader asks for the map: its buffer is at `0x200100`, the key goes to `0x200008`. -/
def loaderCpu : CPUState := ((CPUState.reset.setGR 32 0x200000).setGR 33 0x200100).setGR 34 0x200008

/-- The pages of an image are allocated, and then the loader asks for the map. -/
def allocateAndReport (numberOfPages : UInt64) : List (MapKeyOp Unit SparseMemory) :=
  [.service ⟨resetEfiHandoffLayoutGlobals, .reset, loaderMemory,
      .allocateImagePages numberOfPages EFI_MEMORY_LOADER_CODE⟩,
    .getMemoryMap resetEfiHandoffLayoutGlobals loaderCpu loaderMemory]

theorem mapKey_faithful_two_images :
    (run MapKeyMonitor.step ⟨IA64ISAPlugin.reset.2, []⟩ (allocateAndReport 1 ++ allocateAndReport 2)).reports.length = 2 ∧
    ∀ r ∈ (run MapKeyMonitor.step ⟨IA64ISAPlugin.reset.2, []⟩ (allocateAndReport 1 ++ allocateAndReport 2)).reports,
      ∀ r' ∈ (run MapKeyMonitor.step ⟨IA64ISAPlugin.reset.2, []⟩
        (allocateAndReport 1 ++ allocateAndReport 2)).reports, r.1 = r'.1 → r.2 = r'.2 := by
  refine ⟨by decide +kernel, mapKey_faithful _ _ ⟨.inl rfl, .inl rfl, .inr ⟨⟨?_, ?_⟩, ?_⟩, .inr ⟨?_, ?_⟩, trivial⟩⟩
  · decide +kernel
  · decide +kernel
  · unfold EfiMemoryState.KeyRoom
    decide +kernel
  · decide +kernel
  · decide +kernel

/-- **A key used again.** Once the first map has been reported, an empty boot image is installed: the map is built
    again, its key starts over, and the second image gets the key of the first. -/
theorem mapKey_not_faithful :
    ¬ ∀ r ∈ (run MapKeyMonitor.step ⟨IA64ISAPlugin.reset.2, []⟩
        (allocateAndReport 1 ++ .setBootImageBackingStore [] :: allocateAndReport 2)).reports,
      ∀ r' ∈ (run MapKeyMonitor.step ⟨IA64ISAPlugin.reset.2, []⟩
        (allocateAndReport 1 ++ .setBootImageBackingStore [] :: allocateAndReport 2)).reports,
        r.1 = r'.1 → r.2 = r'.2 := by
  decide +kernel

end GuideXOS.Isa
