import GuideXOS.Lib.Runs
import GuideXOS.Lib.Segments
import GuideXOS.Core.Memory
import GuideXOS.Isa.Handoff

/-!
# `EfiMemoryMap` — the firmware's memory map and its allocators

The EFI memory map is a list of descriptors over the pages of guest memory. It is built once, by marking
the ranges the firmware owns in an all-conventional map, and from then on every allocation splits a
conventional descriptor and every release turns a range conventional again.

* The guest calls the services with arguments in its output registers; between two calls the processor and
  the guest memory may change in any way.
* What `LoadImage` does before it allocates (checking its arguments, reading and parsing the image) is a
  parameter: it changes neither the plugin nor guest memory.
* Running out of host memory is left out.
-/

namespace GuideXOS.Isa
open Lib Lib.Words Lib.Runs Lib.Segments GuideXOS.Core

def EFI_STATUS_SUCCESS : UInt64 := 0
def EFI_STATUS_INVALID_PARAMETER : UInt64 := 0x8000000000000002
def EFI_STATUS_NOT_READY : UInt64 := 0x8000000000000006
def EFI_STATUS_OUT_OF_RESOURCES : UInt64 := 0x8000000000000009
def EFI_STATUS_NOT_FOUND : UInt64 := 0x800000000000000E

def EFI_PAGE_SIZE : UInt64 := 0x1000
def EFI_ALLOCATE_MAX_ADDRESS : UInt32 := 1
def EFI_ALLOCATE_ADDRESS : UInt32 := 2
def EFI_MAX_MEMORY_TYPE : UInt32 := 16
def EFI_MEMORY_RESERVED : UInt32 := 0
def EFI_MEMORY_LOADER_CODE : UInt32 := 1
def EFI_MEMORY_LOADER_DATA : UInt32 := 2
def EFI_MEMORY_BOOT_SERVICES_CODE : UInt32 := 3
def EFI_MEMORY_BOOT_SERVICES_DATA : UInt32 := 4
def EFI_MEMORY_RUNTIME_DATA : UInt32 := 6
def EFI_MEMORY_CONVENTIONAL : UInt32 := 7
def EFI_MEMORY_PERSISTENT : UInt32 := 14
def EFI_MEMORY_UNACCEPTED : UInt32 := 15
def EFI_MEMORY_ATTRIBUTES : UInt64 := 0xF

def EFI_BOOT_IMAGE_METADATA_SIGNATURE : UInt64 := 0x42465441494D4645
def EFI_BOOT_IMAGE_GUEST_BASE : UInt64 := 0x18000000

def EfiHandoffGlobals.EFI_BOOT_IMAGE_METADATA_ADDR (g : EfiHandoffGlobals) : UInt64 :=
  g.EFI_HANDOFF_REGION_BASE + 0x1D00

def UINT64_MAX : UInt64 := 0xFFFFFFFFFFFFFFFF

def isValidEfiPoolType (type : UInt32) : Bool :=
  type == EFI_MEMORY_LOADER_DATA || type == EFI_MEMORY_BOOT_SERVICES_DATA || type == EFI_MEMORY_RUNTIME_DATA

/-- The types an allocation may ask for. Conventional memory is where allocations come from; persistent and
    unaccepted memory have rules of their own. -/
def isAllocatableType (type : UInt32) : Bool :=
  !(type ≥ EFI_MAX_MEMORY_TYPE || type == EFI_MEMORY_CONVENTIONAL || type == EFI_MEMORY_PERSISTENT ||
    type == EFI_MEMORY_UNACCEPTED)

def efiAlignUp (value alignment : UInt64) : UInt64 :=
  if alignment = 0 then value else efiAlignDown (value + alignment - 1) alignment

/-! ## Operations on descriptors -/

namespace EfiMemoryDescriptor

def endAddress (d : EfiMemoryDescriptor) : UInt64 := d.physicalStart + d.numberOfPages * EFI_PAGE_SIZE

/-- The body of both relabelling loops: one descriptor, split at the ends of `[start, stop)`. -/
def split (start stop : UInt64) (type : UInt32) (d : EfiMemoryDescriptor) : List EfiMemoryDescriptor :=
  if d.endAddress ≤ start ∨ d.physicalStart ≥ stop then [d]
  else
    let markedStart := max d.physicalStart start
    let markedEnd := min d.endAddress stop
    (if d.physicalStart < start then
      [⟨d.type, d.physicalStart, (start - d.physicalStart) / EFI_PAGE_SIZE, d.attributes⟩] else []) ++
    [⟨type, markedStart, (markedEnd - markedStart) / EFI_PAGE_SIZE, d.attributes⟩] ++
    (if markedEnd < d.endAddress then
      [⟨d.type, markedEnd, (d.endAddress - markedEnd) / EFI_PAGE_SIZE, d.attributes⟩] else [])

end EfiMemoryDescriptor

/-- Appends a descriptor, or extends the last one where it continues it with the same type and attributes. -/
def mergeDescriptor (map : List EfiMemoryDescriptor) (d : EfiMemoryDescriptor) : List EfiMemoryDescriptor :=
  match map.getLast? with
  | none => [d]
  | some previous =>
      if previous.type = d.type ∧ previous.attributes = d.attributes ∧ previous.endAddress = d.physicalStart then
        map.dropLast ++ [{ previous with numberOfPages := previous.numberOfPages + d.numberOfPages }]
      else map ++ [d]

/-- **`appendDescriptor`.** -/
def appendDescriptor (map : List EfiMemoryDescriptor) (d : EfiMemoryDescriptor) : List EfiMemoryDescriptor :=
  if d.numberOfPages = 0 then map else mergeDescriptor map d

/-- **`markRange`.** -/
def markRange (physicalEnd requestedStart requestedEnd : UInt64) (type : UInt32)
    (map : List EfiMemoryDescriptor) : List EfiMemoryDescriptor :=
  let start := min (efiAlignDown requestedStart EFI_PAGE_SIZE) physicalEnd
  let stop := min (efiAlignUp requestedEnd EFI_PAGE_SIZE) physicalEnd
  if start ≥ stop then map
  else (map.flatMap (·.split start stop type)).foldl appendDescriptor []

/-- The pages of `[start, stop)` that a descriptor holds. -/
def coveredPages (start stop : UInt64) (d : EfiMemoryDescriptor) : UInt64 :=
  if d.endAddress ≤ start ∨ d.physicalStart ≥ stop then 0
  else (min d.endAddress stop - max d.physicalStart start) / EFI_PAGE_SIZE

/-- **`replaceEfiMemoryMapRange`.** `none` when it refuses: the range is empty, overflows, or is not covered
    by the map. -/
def replaceEfiMemoryMapRange (map : List EfiMemoryDescriptor) (physicalStart numberOfPages : UInt64)
    (type : UInt32) : Option (List EfiMemoryDescriptor) :=
  if numberOfPages = 0 ∨ numberOfPages > UINT64_MAX / EFI_PAGE_SIZE ∨
      physicalStart > UINT64_MAX - numberOfPages * EFI_PAGE_SIZE then none
  else
    let rangeEnd := physicalStart + numberOfPages * EFI_PAGE_SIZE
    if map.foldl (fun pages d => pages + coveredPages physicalStart rangeEnd d) 0 ≠ numberOfPages then none
    else some ((map.flatMap (·.split physicalStart rangeEnd type)).foldl mergeDescriptor [])

/-- The descriptor an allocator takes: the last one that fits, with the base it gives. -/
def selectDescriptor (fits : EfiMemoryDescriptor → Option UInt64) (map : List EfiMemoryDescriptor) :
    Option (Nat × UInt64) :=
  map.zipIdx.reverse.findSome? fun e => (fits e.1).map fun base => (e.2, base)

/-! ## Building the map -/

/-- The ranges `ensureEfiMemoryMap` marks, in its order. -/
structure EfiMark where
  start : UInt64
  stop : UInt64
  type : UInt32

section Services
variable {I M : Type _} [IMemory M] (g : EfiHandoffGlobals) (p : IA64ISAPlugin I) (memory : M)

/-- The loaded image, as its protocol structure in guest memory tells. -/
def loadedImageMark : List EfiMark :=
  match readGuestU64 memory (g.EFI_LOADED_IMAGE_PROTOCOL_ADDR + 0x40),
      readGuestU64 memory (g.EFI_LOADED_IMAGE_PROTOCOL_ADDR + 0x48) with
  | some base, some size =>
      if size ≠ 0 ∧ base ≤ UINT64_MAX - size then [⟨base, base + size, EFI_MEMORY_LOADER_CODE⟩] else []
  | _, _ => []

/-- The boot image: from its metadata in guest memory, else where the VM manager puts it. Metadata with a
    wrong signature is still used when there is no image of the VM manager. -/
def bootImageMark (services : EfiServices) (memory : M) : List EfiMark :=
  let signature := readGuestU64 memory g.EFI_BOOT_IMAGE_METADATA_ADDR
  let readBase := signature.bind fun _ => readGuestU64 memory (g.EFI_BOOT_IMAGE_METADATA_ADDR + 8)
  let readSize := readBase.bind fun _ => readGuestU64 memory (g.EFI_BOOT_IMAGE_METADATA_ADDR + 16)
  let hasBootImageMetadata := readSize.isSome && signature == some EFI_BOOT_IMAGE_METADATA_SIGNATURE
  let fromVmManager :=
    !hasBootImageMetadata && services.boot.efiBootImageFromVmManager && !services.boot.efiBootImage.isEmpty
  let base := if fromVmManager then EFI_BOOT_IMAGE_GUEST_BASE else readBase.getD 0
  let size := if fromVmManager then UInt64.ofNat services.boot.efiBootImage.length else readSize.getD 0
  if size ≠ 0 ∧ base ≤ UINT64_MAX - size then [⟨base, base + size, EFI_MEMORY_BOOT_SERVICES_CODE⟩] else []

def reservationMark (r : EfiMemoryReservation) : EfiMark :=
  ⟨r.physicalStart, r.physicalStart + r.numberOfPages * EFI_PAGE_SIZE, r.type⟩

/-- Everything the firmware owns. -/
def firmwareMarks (physicalEnd : UInt64) : List EfiMark :=
  let memorySize := getTotalSize memory
  let stackTop := efiAlignDown (if memorySize > kEfiStackGuard then memorySize - kEfiStackGuard else 0) 16
  let stackBase := if stackTop > kEfiStackSize then stackTop - kEfiStackSize else 0
  [⟨0, min kEfiLowMemoryFloor physicalEnd, EFI_MEMORY_RESERVED⟩] ++
    loadedImageMark g memory ++ bootImageMark g p.services memory ++
    p.memoryMap.efiMemoryReservations.map reservationMark ++
    [⟨g.EFI_HANDOFF_REGION_BASE, g.EFI_HANDOFF_REGION_END, EFI_MEMORY_BOOT_SERVICES_DATA⟩,
      ⟨stackBase, stackTop, EFI_MEMORY_LOADER_DATA⟩, ⟨stackTop, memorySize, EFI_MEMORY_RESERVED⟩]

/-- The bytes of a partial last page are not advertised. -/
def physicalEndOf (memorySize : UInt64) : UInt64 := memorySize &&& ~~~(EFI_PAGE_SIZE - 1)

/-- **`ensureEfiMemoryMap`.** -/
def ensureEfiMemoryMap : Bool × IA64ISAPlugin I :=
  let memorySize := getTotalSize memory
  if p.memoryMap.efiMemoryMapInitialized ∧ p.memoryMap.efiMemoryMapMemorySize = memorySize then (true, p)
  else
    let cleared : EfiMemoryState :=
      { efiMemoryReservations := p.memoryMap.efiMemoryReservations
        efiMemoryMapMemorySize := memorySize
        efiMemoryMapInitialized := true }
    if memorySize < EFI_PAGE_SIZE then (false, { p with memoryMap := cleared })
    else
      let physicalEnd := physicalEndOf memorySize
      let conventional := appendDescriptor []
        ⟨EFI_MEMORY_CONVENTIONAL, 0, physicalEnd / EFI_PAGE_SIZE, EFI_MEMORY_ATTRIBUTES⟩
      let map := (firmwareMarks g p memory physicalEnd).foldl
        (fun map mark => markRange physicalEnd mark.start mark.stop mark.type map) conventional
      (true, { p with memoryMap := { cleared with efiMemoryMap := map } })

/-! ## The allocators -/

/-- **`readCallerOutputRegister`.** -/
def readCallerOutputRegister (cpu : CPUState) (index : Nat) : UInt64 :=
  let reg := 32 + cpu.getSOL.toNat + index
  if h : reg < 128 then cpu.getGR ⟨reg, h⟩ else 0

/-- A plugin with another memory map state. -/
def IA64ISAPlugin.setMemoryMap (m : EfiMemoryState) : IA64ISAPlugin I :=
  { p with memoryMap := m }

def IA64ISAPlugin.setCounters (c : EfiCounters) : IA64ISAPlugin I :=
  { p with counters := c }

@[simp] theorem IA64ISAPlugin.memoryMap_setMemoryMap (m : EfiMemoryState) :
    (p.setMemoryMap m).memoryMap = m := rfl

@[simp] theorem IA64ISAPlugin.memoryMap_setCounters (c : EfiCounters) :
    (p.setCounters c).memoryMap = p.memoryMap := rfl

namespace EfiCounters

variable (c : EfiCounters)

def countAllocatePages : EfiCounters :=
  { c with efiAllocatePagesCalls := c.efiAllocatePagesCalls + 1 }

def countAllocatePool : EfiCounters :=
  { c with efiAllocatePoolCalls := c.efiAllocatePoolCalls + 1 }

def countFreePool : EfiCounters := { c with efiFreePoolCalls := c.efiFreePoolCalls + 1 }

end EfiCounters

namespace EfiMemoryState

variable (m : EfiMemoryState)

/-- An allocation is published: the new map, the record of it, and the next map key. -/
def publishPages (map : List EfiMemoryDescriptor) (a : EfiAllocation) : EfiMemoryState :=
  { m with
    efiMemoryMap := map
    efiPageAllocations := m.efiPageAllocations ++ [a]
    efiMemoryMapKey := m.efiMemoryMapKey + 1 }

def publishPool (map : List EfiMemoryDescriptor) (a : EfiAllocation) : EfiMemoryState :=
  { m with
    efiMemoryMap := map
    efiPoolAllocations := m.efiPoolAllocations ++ [a]
    efiMemoryMapKey := m.efiMemoryMapKey + 1 }

/-- The lambda `releasePool` of `LoadImage`, and the end of `FreePool`: the first pool allocation at an
    address turns conventional again. `none` when there is none, or the map refuses. -/
def releasePool (address : UInt64) : Option EfiMemoryState :=
  match m.efiPoolAllocations.find? fun a => a.physicalStart = address with
  | none => none
  | some a =>
      (replaceEfiMemoryMapRange m.efiMemoryMap a.physicalStart a.numberOfPages EFI_MEMORY_CONVENTIONAL).map
        fun map => { m with
          efiMemoryMap := map
          efiPoolAllocations := m.efiPoolAllocations.erase a
          efiMemoryMapKey := m.efiMemoryMapKey + 1 }

/-- **`releaseEfiImagePages`.** -/
def releaseEfiImagePages (physicalStart numberOfPages : UInt64) : Option EfiMemoryState :=
  match m.efiPageAllocations.find? fun a => a.physicalStart = physicalStart ∧ a.numberOfPages = numberOfPages with
  | none => none
  | some a =>
      (replaceEfiMemoryMapRange m.efiMemoryMap physicalStart numberOfPages EFI_MEMORY_CONVENTIONAL).map
        fun map => { m with
          efiMemoryMap := map
          efiPageAllocations := m.efiPageAllocations.erase a
          efiMemoryMapKey := m.efiMemoryMapKey + 1 }

end EfiMemoryState

/-- Where `AllocatePages` would allocate in one descriptor. -/
def fitsAllocatePages (allocationType : UInt32) (inputMemory allocationBytes : UInt64)
    (d : EfiMemoryDescriptor) : Option UInt64 :=
  if d.type ≠ EFI_MEMORY_CONVENTIONAL then none
  else
    let rangeEnd := d.endAddress
    if allocationType = EFI_ALLOCATE_ADDRESS then
      if inputMemory ≥ d.physicalStart ∧ inputMemory ≤ rangeEnd ∧ allocationBytes ≤ rangeEnd - inputMemory then
        some inputMemory
      else none
    else
      let allowedEnd :=
        if allocationType = EFI_ALLOCATE_MAX_ADDRESS then min (rangeEnd - 1) inputMemory else rangeEnd - 1
      if allowedEnd < d.physicalStart ∨ allowedEnd - d.physicalStart + 1 < allocationBytes then none
      else
        let candidate := (allowedEnd - allocationBytes + 1) &&& ~~~(EFI_PAGE_SIZE - 1)
        if candidate < d.physicalStart ∨ candidate > rangeEnd ∨ allocationBytes > rangeEnd - candidate then none
        else some candidate

/-- The selected descriptor, split around the allocation. -/
def splitSelected (map : List EfiMemoryDescriptor) (selected : Nat) (base numberOfPages : UInt64)
    (memoryType : UInt32) : List EfiMemoryDescriptor :=
  match map[selected]? with
  | none => map
  | some d =>
      let selectedEnd := base + numberOfPages * EFI_PAGE_SIZE
      map.take selected ++
        ((if base > d.physicalStart then
          [⟨d.type, d.physicalStart, (base - d.physicalStart) / EFI_PAGE_SIZE, d.attributes⟩] else []) ++
        [⟨memoryType, base, numberOfPages, d.attributes⟩] ++
        (if selectedEnd < d.endAddress then
          [⟨d.type, selectedEnd, (d.endAddress - selectedEnd) / EFI_PAGE_SIZE, d.attributes⟩] else [])) ++
        map.drop (selected + 1)

/-- **`handleEfiAllocatePages`.** The status, the plugin and the guest memory after the call. -/
def handleEfiAllocatePages : UInt64 × IA64ISAPlugin I × M :=
  let p := p.setCounters p.counters.countAllocatePages
  let allocationType := (readCallerOutputRegister p.cpu 0).toUInt32
  let memoryType := (readCallerOutputRegister p.cpu 1).toUInt32
  let numberOfPages := readCallerOutputRegister p.cpu 2
  let memoryAddress := readCallerOutputRegister p.cpu 3
  match if memoryAddress = 0 then none else readGuestU64 memory memoryAddress with
  | none => (EFI_STATUS_INVALID_PARAMETER, p, memory)
  | some inputMemory =>
      if guestRangeWithinReportedMemory memory memoryAddress 8 = some false ∨
          IMemory.writePermission memory memoryAddress 8 = some false then
        (EFI_STATUS_INVALID_PARAMETER, p, memory)
      else if allocationType > EFI_ALLOCATE_ADDRESS ∨ !isAllocatableType memoryType then
        (EFI_STATUS_INVALID_PARAMETER, p, memory)
      else if numberOfPages = 0 ∨ numberOfPages > UINT64_MAX / EFI_PAGE_SIZE then
        (EFI_STATUS_NOT_FOUND, p, memory)
      else
        let (ready, p) := ensureEfiMemoryMap g p memory
        let allocationBytes := numberOfPages * EFI_PAGE_SIZE
        if !ready then (EFI_STATUS_OUT_OF_RESOURCES, p, memory)
        else if allocationType = EFI_ALLOCATE_ADDRESS ∧ inputMemory &&& (EFI_PAGE_SIZE - 1) ≠ 0 then
          (EFI_STATUS_INVALID_PARAMETER, p, memory)
        else if allocationType = EFI_ALLOCATE_ADDRESS ∧ inputMemory > UINT64_MAX - allocationBytes then
          (EFI_STATUS_NOT_FOUND, p, memory)
        else
          let map := p.memoryMap.efiMemoryMap
          match selectDescriptor (fitsAllocatePages allocationType inputMemory allocationBytes) map with
          | none => (EFI_STATUS_NOT_FOUND, p, memory)
          | some (selected, selectedBase) =>
              if selectedBase + allocationBytes < selectedBase then (EFI_STATUS_NOT_FOUND, p, memory)
              else
                match writeGuestU64 memory memoryAddress selectedBase with
                | none => (EFI_STATUS_INVALID_PARAMETER, p, memory)
                | some memory =>
                    let map := (splitSelected map selected selectedBase numberOfPages memoryType).foldl
                      mergeDescriptor []
                    (EFI_STATUS_SUCCESS,
                      p.setMemoryMap (p.memoryMap.publishPages map ⟨selectedBase, numberOfPages, memoryType⟩),
                      memory)

/-- Where `AllocatePool` would allocate in one descriptor. -/
def fitsPool (numberOfPages alignment : UInt64) (d : EfiMemoryDescriptor) : Option UInt64 :=
  if d.type ≠ EFI_MEMORY_CONVENTIONAL ∨ d.numberOfPages < numberOfPages then none
  else
    let allocationBytes := numberOfPages * EFI_PAGE_SIZE
    let allocation := d.endAddress - allocationBytes
    if allocation &&& (alignment - 1) = 0 then some allocation
    else
      let allocation := allocation &&& ~~~(alignment - 1)
      if allocation < d.physicalStart ∨ allocationBytes > d.endAddress - allocation then none
      else some allocation

/-- **`allocateEfiPool`.** The address, or `0`. The pages are cleared before they are recorded. -/
def allocateEfiPool (size : UInt64) (memoryType : UInt32) (alignment : UInt64) : UInt64 × IA64ISAPlugin I × M :=
  let requestedAlignment := if alignment = 0 then 16 else alignment
  if size = 0 ∨ !isValidEfiPoolType memoryType then (0, p, memory)
  else if requestedAlignment &&& (requestedAlignment - 1) ≠ 0 ∨ requestedAlignment > EFI_PAGE_SIZE ∨
      size > UINT64_MAX - (EFI_PAGE_SIZE - 1) then (0, p, memory)
  else
    let (ready, p) := ensureEfiMemoryMap g p memory
    let numberOfPages := (size + EFI_PAGE_SIZE - 1) / EFI_PAGE_SIZE
    if !ready ∨ numberOfPages = 0 ∨ numberOfPages > UINT64_MAX / EFI_PAGE_SIZE then (0, p, memory)
    else
      match selectDescriptor (fitsPool numberOfPages requestedAlignment) p.memoryMap.efiMemoryMap with
      | none => (0, p, memory)
      | some (_, allocation) =>
          match IMemory.write memory allocation (List.replicate (numberOfPages * EFI_PAGE_SIZE).toNat 0) with
          | .error _ => (0, p, memory)
          | .ok memory =>
              match replaceEfiMemoryMapRange p.memoryMap.efiMemoryMap allocation numberOfPages memoryType with
              | none => (0, p, memory)
              | some map =>
                  (allocation, p.setMemoryMap (p.memoryMap.publishPool map ⟨allocation, numberOfPages, memoryType⟩),
                    memory)

/-- The `BootServices.AllocatePool` branch of the call dispatch. The address is written through the plain
    interface, which may throw after the allocation is recorded. -/
def allocatePoolStub : IA64ISAPlugin I × Except String (UInt64 × M) :=
  let p := p.setCounters p.counters.countAllocatePool
  let memoryType := (readCallerOutputRegister p.cpu 0).toUInt32
  let size := readCallerOutputRegister p.cpu 1
  let bufferOut := readCallerOutputRegister p.cpu 2
  if !isValidEfiPoolType memoryType ∨ bufferOut = 0 then (p, .ok (EFI_STATUS_INVALID_PARAMETER, memory))
  else
    let (allocation, p, memory) := allocateEfiPool g p memory size memoryType 0
    if allocation = 0 then (p, .ok (EFI_STATUS_OUT_OF_RESOURCES, memory))
    else (p, (IMemory.write memory bufferOut (bytesOfWord 8 allocation)).map fun memory =>
      (EFI_STATUS_SUCCESS, memory))

/-- Where `LoadImage` would allocate in one descriptor: at its end. -/
def fitsImagePages (numberOfPages : UInt64) (d : EfiMemoryDescriptor) : Option UInt64 :=
  if d.type ≠ EFI_MEMORY_CONVENTIONAL ∨ d.numberOfPages < numberOfPages then none
  else some (d.endAddress - numberOfPages * EFI_PAGE_SIZE)

/-- **`allocateEfiImagePages`.** The address, or `0`. -/
def allocateEfiImagePages (numberOfPages : UInt64) (memoryType : UInt32) : UInt64 × IA64ISAPlugin I :=
  if numberOfPages = 0 ∨ numberOfPages > UINT64_MAX / EFI_PAGE_SIZE ∨ !isAllocatableType memoryType then (0, p)
  else
    let (ready, p) := ensureEfiMemoryMap g p memory
    if !ready then (0, p)
    else
      match selectDescriptor (fitsImagePages numberOfPages) p.memoryMap.efiMemoryMap with
      | none => (0, p)
      | some (_, allocation) =>
          match replaceEfiMemoryMapRange p.memoryMap.efiMemoryMap allocation numberOfPages memoryType with
          | none => (0, p)
          | some map =>
              (allocation, p.setMemoryMap (p.memoryMap.publishPages map ⟨allocation, numberOfPages, memoryType⟩))

/-- **`handleEfiFreePool`.** -/
def handleEfiFreePool : UInt64 × IA64ISAPlugin I :=
  let p := p.setCounters p.counters.countFreePool
  let buffer := readCallerOutputRegister p.cpu 0
  if buffer = 0 then (EFI_STATUS_INVALID_PARAMETER, p)
  else
    let (ready, p) := ensureEfiMemoryMap g p memory
    if !ready then (EFI_STATUS_INVALID_PARAMETER, p)
    else
      match p.memoryMap.releasePool buffer with
      | none => (EFI_STATUS_INVALID_PARAMETER, p)
      | some m => (EFI_STATUS_SUCCESS, p.setMemoryMap m)

/-! ## `LoadImage` -/

/-- An image the PE parser accepted: its size, and what loading it at an address gives (success, the bytes,
    the entry point). -/
structure ParsedImage where
  sizeOfImage : UInt32
  loadImage : UInt64 → Bool × List UInt8 × UInt64
  globalPointer : UInt64

/-- The first handle from `handle` on that is neither zero, nor the image handle, nor attached. At most
    `attachments.length + 2` handles are skipped. -/
def nextSyntheticHandle (attachments : List EfiProtocolAttachment) : Nat → UInt64 → UInt64
  | 0, handle => handle
  | fuel + 1, handle =>
      if handle = 0 ∨ handle = EFI_IMAGE_HANDLE ∨ attachments.any (·.handle = handle) then
        nextSyntheticHandle attachments fuel (handle + 1)
      else handle

/-- Both allocations of `LoadImage` given back; a release that is refused is passed over. -/
def EfiMemoryState.releaseLoadImage (m : EfiMemoryState) (protocolAddress imageBase numberOfPages : UInt64) :
    EfiMemoryState :=
  let m := (m.releasePool protocolAddress).getD m
  (m.releaseEfiImagePages imageBase numberOfPages).getD m

/-- The lambda `rollback` of `LoadImage`. -/
def IA64ISAPlugin.rollbackLoadImage (childHandle protocolAddress imageBase numberOfPages : UInt64) : IA64ISAPlugin I :=
  { p with
    services := { p.services with
      efiLoadedImages := p.services.efiLoadedImages.erase childHandle
      efiProtocolAttachments := p.services.efiProtocolAttachments.filter (·.handle ≠ childHandle) }
    memoryMap := p.memoryMap.releaseLoadImage protocolAddress imageBase numberOfPages }

/-- Gives the pages of an image that cannot be loaded back. -/
def IA64ISAPlugin.releaseImage (imageBase numberOfPages : UInt64) : IA64ISAPlugin I :=
  p.setMemoryMap ((p.memoryMap.releaseEfiImagePages imageBase numberOfPages).getD p.memoryMap)

/-- Writes of `(width, address, value)` in order, up to the first that guest memory refuses. -/
def writeGuestFields (memory : M) : List (Nat × UInt64 × UInt64) → Bool × M
  | [] => (true, memory)
  | (width, address, value) :: rest =>
      match IMemory.write memory address (bytesOfWord width value) with
      | .error _ => (false, memory)
      | .ok memory => writeGuestFields memory rest

/-- The loaded-image protocol structure of a child image. -/
def loadedImageFields (protocolAddress parentHandle devicePath imageBase imageSize : UInt64) :
    List (Nat × UInt64 × UInt64) :=
  [(4, protocolAddress, 0x1000), (8, protocolAddress + 0x08, parentHandle),
    (8, protocolAddress + 0x10, g.EFI_HANDOFF_REGION_BASE),
    (8, protocolAddress + 0x18, EFI_IMAGE_DEVICE_HANDLE), (8, protocolAddress + 0x20, devicePath),
    (4, protocolAddress + 0x30, 0), (8, protocolAddress + 0x38, 0), (8, protocolAddress + 0x40, imageBase),
    (8, protocolAddress + 0x48, imageSize), (4, protocolAddress + 0x50, EFI_MEMORY_LOADER_CODE.toUInt64),
    (4, protocolAddress + 0x54, EFI_MEMORY_LOADER_DATA.toUInt64), (8, protocolAddress + 0x58, 0)]

/-- The last part of `LoadImage`: the child image is registered and its handle handed out, or everything is
    rolled back. What was written to guest memory before a refused write stays. -/
def registerChildImage
    (parentHandle devicePath imageHandleOut protocolAddress imageBase numberOfPages imageSize entryPoint
      globalPointer : UInt64) : UInt64 × IA64ISAPlugin I × M :=
  let attachments := p.services.efiProtocolAttachments
  let childHandle := nextSyntheticHandle attachments (attachments.length + 3) p.services.efiNextSyntheticHandle
  let p := { p with services := { p.services with efiNextSyntheticHandle := childHandle + 1 } }
  let rollback (p : IA64ISAPlugin I) := p.rollbackLoadImage childHandle protocolAddress imageBase numberOfPages
  match writeGuestFields memory
      (loadedImageFields g protocolAddress parentHandle devicePath imageBase imageSize) with
  | (false, memory) => (EFI_STATUS_INVALID_PARAMETER, rollback p, memory)
  | (true, memory) =>
      let image : EfiLoadedImage := ⟨childHandle, protocolAddress, parentHandle, EFI_IMAGE_DEVICE_HANDLE,
        imageBase, imageSize, entryPoint, globalPointer, devicePath⟩
      let p := { p with services := { p.services with
        efiLoadedImages := (p.services.efiLoadedImages.emplace? childHandle image).getD
          p.services.efiLoadedImages
        efiProtocolAttachments := p.services.efiProtocolAttachments ++
          [⟨childHandle, EFI_LOADED_IMAGE_PROTOCOL_GUID, protocolAddress⟩] } }
      match writeGuestU64 memory imageHandleOut childHandle with
      | none => (EFI_STATUS_INVALID_PARAMETER, rollback p, memory)
      | some memory => (EFI_STATUS_SUCCESS, p, memory)

/-- **`handleEfiLoadImage`.** `source` is what walking the device path, reading the file or buffer and
    parsing it give: a status to return, or an image. -/
def handleEfiLoadImage (source : Except UInt64 ParsedImage) : UInt64 × IA64ISAPlugin I × M :=
  let parentHandle := readCallerOutputRegister p.cpu 1
  let devicePath := readCallerOutputRegister p.cpu 2
  let sourceBuffer := readCallerOutputRegister p.cpu 3
  let sourceSize := readCallerOutputRegister p.cpu 4
  let imageHandleOut := readCallerOutputRegister p.cpu 5
  let parentKnown := parentHandle = EFI_IMAGE_HANDLE ∨ (p.services.efiLoadedImages.find? parentHandle).isSome
  if ¬ parentKnown ∨ imageHandleOut = 0 ∨
      guestRangeWithinReportedMemory memory imageHandleOut 8 ≠ some true ∨
      imageHandleOut + 8 > getTotalSize memory then (EFI_STATUS_INVALID_PARAMETER, p, memory)
  else if (sourceBuffer = 0 ∧ sourceSize ≠ 0) ∨ (sourceBuffer ≠ 0 ∧ sourceSize = 0) ∨
      (devicePath = 0 ∧ sourceBuffer = 0) then (EFI_STATUS_INVALID_PARAMETER, p, memory)
  else
    match source with
    | .error status => (status, p, memory)
    | .ok parsed =>
        if parsed.sizeOfImage = 0 then (EFI_STATUS_INVALID_PARAMETER, p, memory)
        else
          let numberOfPages := (parsed.sizeOfImage.toUInt64 + EFI_PAGE_SIZE - 1) / EFI_PAGE_SIZE
          let imageBytesLimit := (numberOfPages * EFI_PAGE_SIZE).toNat
          let (imageBase, p) := allocateEfiImagePages g p memory numberOfPages EFI_MEMORY_LOADER_CODE
          if imageBase = 0 then (EFI_STATUS_OUT_OF_RESOURCES, p, memory)
          else
            let (loaded, imageBytes, entryPoint) := parsed.loadImage imageBase
            let imageSize := UInt64.ofNat imageBytes.length
            if !loaded ∨ imageBytes.isEmpty ∨ imageBytes.length > imageBytesLimit ∨ entryPoint < imageBase ∨
                entryPoint ≥ imageBase + imageSize then
              (if imageBytes.length > imageBytesLimit then EFI_STATUS_OUT_OF_RESOURCES
                else EFI_STATUS_INVALID_PARAMETER, p.releaseImage imageBase numberOfPages, memory)
            else
              match IMemory.write memory imageBase (List.replicate imageBytesLimit 0) with
              | .error _ => (EFI_STATUS_INVALID_PARAMETER, p.releaseImage imageBase numberOfPages, memory)
              | .ok memory =>
                  match IMemory.write memory imageBase imageBytes with
                  | .error _ => (EFI_STATUS_INVALID_PARAMETER, p.releaseImage imageBase numberOfPages, memory)
                  | .ok memory =>
                      let (protocolAddress, p, memory) :=
                        allocateEfiPool g p memory 0x60 EFI_MEMORY_BOOT_SERVICES_DATA 0
                      if protocolAddress = 0 then
                        (EFI_STATUS_OUT_OF_RESOURCES, p.releaseImage imageBase numberOfPages, memory)
                      else registerChildImage g p memory parentHandle devicePath imageHandleOut protocolAddress
                        imageBase numberOfPages imageSize entryPoint parsed.globalPointer

end Services

end GuideXOS.Isa
