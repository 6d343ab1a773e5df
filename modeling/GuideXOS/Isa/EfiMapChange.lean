import GuideXOS.Isa.EfiMemoryMap

/-!
# `EfiMapChange` — what the services do to the memory map

Once the map is built, a service call changes it by handing out pages or a pool allocation and by taking one
back, and by nothing else: `EfiMapChange` lists these changes with everything the service checked before it
made one. A call makes at most one of them, but for `LoadImage`, which makes up to four. What the changes keep
is then proved once for each change, not once for each service.
-/

namespace GuideXOS.Isa
open Lib Lib.Words Lib.Runs GuideXOS.Core

/-- The map is built, for a memory of this size. -/
structure EfiMemoryState.BuiltFor (memorySize : UInt64) (m : EfiMemoryState) : Prop where
  initialized : m.efiMemoryMapInitialized = true
  memorySize_eq : m.efiMemoryMapMemorySize = memorySize

/-- **One change of the memory map.** -/
inductive EfiMapChange : EfiMemoryState → EfiMemoryState → Prop
  | allocatePages {m : EfiMemoryState} {allocationType memoryType : UInt32}
      {inputMemory numberOfPages base : UInt64} {selected : Nat}
      (hcount : ¬(numberOfPages = 0 ∨ numberOfPages > UINT64_MAX / EFI_PAGE_SIZE))
      (htype : ¬ (!isAllocatableType memoryType) = true)
      (haddress : allocationType = EFI_ALLOCATE_ADDRESS → inputMemory &&& (EFI_PAGE_SIZE - 1) = 0)
      (hselect : selectDescriptor (fitsAllocatePages allocationType inputMemory (numberOfPages * EFI_PAGE_SIZE))
        m.efiMemoryMap = some (selected, base)) :
      EfiMapChange m (m.publishPages
        ((splitSelected m.efiMemoryMap selected base numberOfPages memoryType).foldl mergeDescriptor [])
        ⟨base, numberOfPages, memoryType⟩)
  | allocateImagePages {m : EfiMemoryState} {memoryType : UInt32} {numberOfPages base : UInt64} {selected : Nat}
      {map : List EfiMemoryDescriptor} (htype : ¬ (!isAllocatableType memoryType) = true)
      (hselect : selectDescriptor (fitsImagePages numberOfPages) m.efiMemoryMap = some (selected, base))
      (hmap : replaceEfiMemoryMapRange m.efiMemoryMap base numberOfPages memoryType = some map) :
      EfiMapChange m (m.publishPages map ⟨base, numberOfPages, memoryType⟩)
  | allocatePool {m : EfiMemoryState} {memoryType : UInt32} {numberOfPages alignment base : UInt64}
      {selected : Nat} {map : List EfiMemoryDescriptor} (htype : ¬ (!isValidEfiPoolType memoryType) = true)
      (hpos : alignment ≠ 0) (hle : ¬ alignment > EFI_PAGE_SIZE)
      (hselect : selectDescriptor (fitsPool numberOfPages alignment) m.efiMemoryMap = some (selected, base))
      (hmap : replaceEfiMemoryMapRange m.efiMemoryMap base numberOfPages memoryType = some map) :
      EfiMapChange m (m.publishPool map ⟨base, numberOfPages, memoryType⟩)
  | releasePool {m m' : EfiMemoryState} {address : UInt64} (h : m.releasePool address = some m') :
      EfiMapChange m m'
  | releaseImagePages {m m' : EfiMemoryState} {physicalStart numberOfPages : UInt64}
      (h : m.releaseEfiImagePages physicalStart numberOfPages = some m') : EfiMapChange m m'

/-- Up to `n` changes. -/
abbrev EfiMapChanges := Within EfiMapChange

namespace EfiMapChange
variable {m m' : EfiMemoryState}

/-- **What every change has in common**: the map stays built, and the map key goes up by one. -/
theorem common (h : EfiMapChange m m') :
    m'.efiMemoryMapInitialized = m.efiMemoryMapInitialized ∧
      m'.efiMemoryMapMemorySize = m.efiMemoryMapMemorySize ∧ m'.efiMemoryMapKey = m.efiMemoryMapKey + 1 := by
  cases h with
  | allocatePages | allocateImagePages | allocatePool => exact ⟨rfl, rfl, rfl⟩
  | releasePool h =>
      unfold EfiMemoryState.releasePool at h
      split at h
      · cases h
      · obtain ⟨map, _, rfl⟩ := Option.map_eq_some_iff.mp h
        exact ⟨rfl, rfl, rfl⟩
  | releaseImagePages h =>
      unfold EfiMemoryState.releaseEfiImagePages at h
      split at h
      · cases h
      · obtain ⟨map, _, rfl⟩ := Option.map_eq_some_iff.mp h
        exact ⟨rfl, rfl, rfl⟩

theorem builtFor {memorySize : UInt64} (h : EfiMapChange m m') (hm : m.BuiltFor memorySize) :
    m'.BuiltFor memorySize := by
  obtain ⟨hinit, hsize, _⟩ := h.common
  exact ⟨hinit.trans hm.initialized, hsize.trans hm.memorySize_eq⟩

end EfiMapChange

theorem EfiMemoryState.BuiltFor.of_changes {memorySize : UInt64} {m m' : EfiMemoryState} {n : Nat}
    (hm : m.BuiltFor memorySize) (h : EfiMapChanges n m m') : m'.BuiltFor memorySize :=
  h.invariant (fun _ _ hs hr => hr.builtFor hs) hm

/-! ## Releases -/

namespace EfiMemoryState
variable (m : EfiMemoryState)

/-- A release that is refused changes nothing. -/
theorem changes_getD {m : EfiMemoryState} {released : Option EfiMemoryState}
    (h : ∀ m', released = some m' → EfiMapChange m m') : EfiMapChanges 1 m (released.getD m) := by
  cases released with
  | none => exact .refl m
  | some m' => exact .single (h m' rfl)

theorem changes_releasePool (address : UInt64) : EfiMapChanges 1 m ((m.releasePool address).getD m) :=
  changes_getD fun _ h => .releasePool h

theorem changes_releaseImagePages (physicalStart numberOfPages : UInt64) :
    EfiMapChanges 1 m ((m.releaseEfiImagePages physicalStart numberOfPages).getD m) :=
  changes_getD fun _ h => .releaseImagePages h

theorem changes_releaseLoadImage (protocolAddress imageBase numberOfPages : UInt64) :
    EfiMapChanges 2 m (m.releaseLoadImage protocolAddress imageBase numberOfPages) :=
  (m.changes_releasePool protocolAddress).trans (changes_releaseImagePages _ imageBase numberOfPages)

end EfiMemoryState

/-! ## The services -/

section Services
variable {I M : Type _} [IMemory M] {g : EfiHandoffGlobals} {p : IA64ISAPlugin I} {memory : M}

/-- Once built, the map is not built again. -/
theorem ensureEfiMemoryMap_of_builtFor (g : EfiHandoffGlobals) (h : p.memoryMap.BuiltFor (getTotalSize memory)) :
    ensureEfiMemoryMap g p memory = (true, p) :=
  if_pos ⟨h.initialized, h.memorySize_eq⟩

section
variable (h : p.memoryMap.BuiltFor (getTotalSize memory))
include h

theorem changes_allocatePages : EfiMapChanges 1 p.memoryMap (handleEfiAllocatePages g p memory).2.1.memoryMap := by
  unfold handleEfiAllocatePages
  dsimp only
  split
  · exact .refl _
  next inputMemory _ =>
  split
  · exact .refl _
  split
  · exact .refl _
  next htype =>
  split
  · exact .refl _
  next hcount =>
  rw [ensureEfiMemoryMap_of_builtFor (p := p.setCounters p.counters.countAllocatePages) g h]
  dsimp only
  split
  · exact .refl _
  split
  · exact .refl _
  next haligned =>
  split
  · exact .refl _
  split
  · exact .refl _
  next selected base hselect =>
  split
  · exact .refl _
  split
  · exact .refl _
  -- the only way to the end: a descriptor was chosen and the guest got the address
  refine .single (.allocatePages hcount (not_or.mp htype).2 ?_ hselect)
  intro hpolicy
  by_contra hne
  exact haligned ⟨hpolicy, hne⟩

theorem changes_allocatePool (size : UInt64) (type : UInt32) (alignment : UInt64) :
    EfiMapChanges 1 p.memoryMap (allocateEfiPool g p memory size type alignment).2.1.memoryMap := by
  unfold allocateEfiPool
  dsimp only
  have hpos : (if alignment = 0 then 16 else alignment) ≠ 0 := by
    split
    · decide
    · next hne => exact hne
  generalize (if alignment = 0 then 16 else alignment) = requestedAlignment at hpos ⊢
  split
  · exact .refl _
  next htype =>
  split
  · exact .refl _
  next halign =>
  rw [ensureEfiMemoryMap_of_builtFor g h]
  dsimp only
  split
  · exact .refl _
  split
  · exact .refl _
  next base hselect =>
  split
  · exact .refl _
  split
  · exact .refl _
  next map hmap =>
  rw [not_or] at htype
  rw [not_or, not_or] at halign
  exact .single (.allocatePool htype.2 hpos halign.2.1 hselect hmap)

theorem changes_allocateImagePages (numberOfPages : UInt64) (type : UInt32) :
    EfiMapChanges 1 p.memoryMap (allocateEfiImagePages g p memory numberOfPages type).2.memoryMap := by
  unfold allocateEfiImagePages
  split
  · exact .refl _
  next hguard =>
  rw [ensureEfiMemoryMap_of_builtFor g h]
  dsimp only
  split
  · exact .refl _
  split
  · exact .refl _
  next base hselect =>
  split
  · exact .refl _
  next map hmap =>
  rw [not_or, not_or] at hguard
  exact .single (.allocateImagePages hguard.2.2 hselect hmap)

theorem changes_freePool : EfiMapChanges 1 p.memoryMap (handleEfiFreePool g p memory).2.memoryMap := by
  unfold handleEfiFreePool
  dsimp only
  split
  · exact .refl _
  rw [ensureEfiMemoryMap_of_builtFor (p := p.setCounters p.counters.countFreePool) g h]
  dsimp only
  split
  · exact .refl _
  split
  · exact .refl _
  next m hrelease => exact .single (.releasePool hrelease)

theorem changes_allocatePoolStub : EfiMapChanges 1 p.memoryMap (allocatePoolStub g p memory).1.memoryMap := by
  unfold allocatePoolStub
  dsimp only
  split
  · exact .refl _
  have hpool := changes_allocatePool (g := g) (p := p.setCounters p.counters.countAllocatePool) h
    (readCallerOutputRegister p.cpu 1) (readCallerOutputRegister p.cpu 0).toUInt32 0
  split
  · exact hpool
  · exact hpool

end

theorem changes_registerChildImage (parentHandle devicePath imageHandleOut protocolAddress imageBase
    numberOfPages imageSize entryPoint globalPointer : UInt64) :
    EfiMapChanges 2 p.memoryMap (registerChildImage g p memory parentHandle devicePath imageHandleOut
      protocolAddress imageBase numberOfPages imageSize entryPoint globalPointer).2.1.memoryMap := by
  unfold registerChildImage
  dsimp only
  split
  · exact p.memoryMap.changes_releaseLoadImage protocolAddress imageBase numberOfPages
  · split
    · exact p.memoryMap.changes_releaseLoadImage protocolAddress imageBase numberOfPages
    · exact .refl _

/-- **`LoadImage`** allocates pages and pool, and gives both back when a later step fails. -/
theorem changes_loadImage [LawfulIMemory M] (h : p.memoryMap.BuiltFor (getTotalSize memory))
    (source : Except UInt64 ParsedImage) :
    EfiMapChanges 4 p.memoryMap (handleEfiLoadImage g p memory source).2.1.memoryMap := by
  unfold handleEfiLoadImage
  dsimp only
  split
  · exact .refl _
  split
  · exact .refl _
  split
  · exact .refl _
  next parsed =>
  split
  · exact .refl _
  have himage := changes_allocateImagePages (g := g) h
    ((parsed.sizeOfImage.toUInt64 + EFI_PAGE_SIZE - 1) / EFI_PAGE_SIZE) EFI_MEMORY_LOADER_CODE
  have hreleased := himage.trans (EfiMemoryState.changes_releaseImagePages _
    (allocateEfiImagePages g p memory ((parsed.sizeOfImage.toUInt64 + EFI_PAGE_SIZE - 1) / EFI_PAGE_SIZE)
      EFI_MEMORY_LOADER_CODE).1 ((parsed.sizeOfImage.toUInt64 + EFI_PAGE_SIZE - 1) / EFI_PAGE_SIZE))
  split
  · exact himage.mono (by decide)
  split
  · exact hreleased.mono (by decide)
  split
  · exact hreleased.mono (by decide)
  next memory₁ hzero =>
  split
  · exact hreleased.mono (by decide)
  next memory₂ hbytes =>
  -- the writes keep the size of guest memory, so the map is not built again
  have hsize : getTotalSize memory₂ = getTotalSize memory :=
    (LawfulIMemory.getTotalSize_write hbytes).trans (LawfulIMemory.getTotalSize_write hzero)
  have hbuilt := h.of_changes himage
  rw [← hsize] at hbuilt
  have hpool := himage.trans (changes_allocatePool (g := g) hbuilt 0x60 EFI_MEMORY_BOOT_SERVICES_DATA 0)
  split
  · exact (hpool.trans (EfiMemoryState.changes_releaseImagePages _ _ _)).mono (by decide)
  · exact hpool.trans (changes_registerChildImage _ _ _ _ _ _ _ _ _)

/-! ## Runs -/

/-- The services that draw on the memory map. `allocatePool` stands for every service that allocates pool
    memory for itself; the last two are what loading the initial image does. -/
inductive EfiMapService where
  | ensureMap
  | allocatePages
  | allocatePoolStub
  | allocatePool (size : UInt64) (memoryType : UInt32) (alignment : UInt64)
  | freePool
  | loadImage (source : Except UInt64 ParsedImage)
  | allocateImagePages (numberOfPages : UInt64) (memoryType : UInt32)
  | releaseImagePages (physicalStart numberOfPages : UInt64)

/-- A call of a service, with the processor and the guest memory it finds. -/
structure EfiMapCall (M : Type _) where
  globals : EfiHandoffGlobals
  cpu : CPUState
  memory : M
  service : EfiMapService

def EfiMapCall.step (p : IA64ISAPlugin I) (call : EfiMapCall M) : IA64ISAPlugin I :=
  let p := p.setCpu call.cpu
  match call.service with
  | .ensureMap => (ensureEfiMemoryMap call.globals p call.memory).2
  | .allocatePages => (handleEfiAllocatePages call.globals p call.memory).2.1
  | .allocatePoolStub => (allocatePoolStub call.globals p call.memory).1
  | .allocatePool size memoryType alignment =>
      (allocateEfiPool call.globals p call.memory size memoryType alignment).2.1
  | .freePool => (handleEfiFreePool call.globals p call.memory).2
  | .loadImage source => (handleEfiLoadImage call.globals p call.memory source).2.1
  | .allocateImagePages numberOfPages memoryType =>
      (allocateEfiImagePages call.globals p call.memory numberOfPages memoryType).2
  | .releaseImagePages physicalStart numberOfPages => p.releaseImage physicalStart numberOfPages

/-- **Step lemma.** A call makes up to four changes. -/
theorem changes_step [LawfulIMemory M] {call : EfiMapCall M}
    (h : p.memoryMap.BuiltFor (getTotalSize call.memory)) :
    EfiMapChanges 4 p.memoryMap (EfiMapCall.step p call).memoryMap := by
  obtain ⟨globals, cpu, memory, service⟩ := call
  have h' : (p.setCpu cpu).memoryMap.BuiltFor (getTotalSize memory) := h
  cases service with
  | ensureMap =>
      show EfiMapChanges 4 _ (ensureEfiMemoryMap globals (p.setCpu cpu) memory).2.memoryMap
      rw [ensureEfiMemoryMap_of_builtFor globals h']
      exact .refl _
  | allocatePages => exact (changes_allocatePages h').mono (by decide)
  | allocatePoolStub => exact (changes_allocatePoolStub h').mono (by decide)
  | allocatePool size memoryType alignment =>
      exact (changes_allocatePool h' size memoryType alignment).mono (by decide)
  | freePool => exact (changes_freePool h').mono (by decide)
  | loadImage source => exact changes_loadImage h' source
  | allocateImagePages numberOfPages memoryType =>
      exact (changes_allocateImagePages h' numberOfPages memoryType).mono (by decide)
  | releaseImagePages physicalStart numberOfPages =>
      exact (p.memoryMap.changes_releaseImagePages physicalStart numberOfPages).mono (by decide)

end Services

end GuideXOS.Isa
