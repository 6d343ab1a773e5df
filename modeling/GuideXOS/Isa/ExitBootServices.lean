import GuideXOS.Isa.EfiMapKey
import GuideXOS.Isa.Isolation

/-!
# `ExitBootServices` — leaving the boot services

The branch for `ExitBootServices` counts the call, returns `EFI_SUCCESS` and goes back to the caller. It looks
neither at the image handle nor at the map key, and it records nothing: the boot services stay in service. A run
therefore goes on as if the call had not been made (`exitBootServices_unnoticed`).

`SameFirmware` is what the services that draw on the memory map can tell of a plugin.
-/

namespace GuideXOS.Isa
open Lib Lib.Words Lib.Runs GuideXOS.Core

def EfiCounters.countExitBootServices (c : EfiCounters) : EfiCounters :=
  { c with efiExitBootServicesCalls := c.efiExitBootServicesCalls + 1 }

section Model
variable {I M : Type} [IMemory M]

/-- `br.call dst` to the stub of `ExitBootServices`. Its arguments are only logged. -/
def callExitBootServices (g : EfiHandoffGlobals) (p : IA64ISAPlugin I) (memory : M) (dst : Fin 8) :
    ISAExecutionResult × IA64ISAPlugin I × M :=
  let p := p.setCounters p.counters.countExitBootServices
  let returnAddress := p.cpu.ip + 16
  finishBranch g (p.setCpu ((p.cpu.setBR dst returnAddress).setGR 8 EFI_STATUS_SUCCESS)) memory returnAddress

/-- What a call hands back: its status, or the address it allocated, and guest memory. -/
abbrev CallResult (M : Type) := Except String (UInt64 × M)

def EfiMapCall.result (p : IA64ISAPlugin I) (call : EfiMapCall M) : CallResult M :=
  let p := p.setCpu call.cpu
  match call.service with
  | .ensureMap =>
      .ok (if (ensureEfiMemoryMap call.globals p call.memory).1 then EFI_STATUS_SUCCESS
        else EFI_STATUS_OUT_OF_RESOURCES, call.memory)
  | .allocatePages =>
      let r := handleEfiAllocatePages call.globals p call.memory
      .ok (r.1, r.2.2)
  | .allocatePoolStub => (allocatePoolStub call.globals p call.memory).2
  | .allocatePool size memoryType alignment =>
      let r := allocateEfiPool call.globals p call.memory size memoryType alignment
      .ok (r.1, r.2.2)
  | .freePool => .ok ((handleEfiFreePool call.globals p call.memory).1, call.memory)
  | .loadImage source =>
      let r := handleEfiLoadImage call.globals p call.memory source
      .ok (r.1, r.2.2)
  | .allocateImagePages numberOfPages memoryType =>
      .ok ((allocateEfiImagePages call.globals p call.memory numberOfPages memoryType).1, call.memory)
  | .releaseImagePages physicalStart numberOfPages =>
      .ok (if (p.memoryMap.releaseEfiImagePages physicalStart numberOfPages).isSome then EFI_STATUS_SUCCESS
        else EFI_STATUS_INVALID_PARAMETER, call.memory)

/-- A boot service call. -/
inductive BootServiceCall (M : Type) where
  | service (call : EfiMapCall M)
  | getMemoryMap (globals : EfiHandoffGlobals) (cpu : CPUState) (memory : M)
  | exitBootServices (globals : EfiHandoffGlobals) (cpu : CPUState) (memory : M) (dst : Fin 8)

namespace BootServiceCall

def isExit : BootServiceCall M → Bool
  | .exitBootServices .. => true
  | _ => false

/-- What the guest gets back. After `ExitBootServices` that is the status in `GR8`. -/
def result (p : IA64ISAPlugin I) : BootServiceCall M → CallResult M
  | .service call => call.result p
  | .getMemoryMap g cpu memory =>
      let r := handleEfiGetMemoryMap g (p.setCpu cpu) memory
      .ok (r.1, r.2.2)
  | .exitBootServices g cpu memory dst =>
      let r := callExitBootServices g (p.setCpu cpu) memory dst
      .ok (r.2.1.cpu.getGR 8, r.2.2)

def step (p : IA64ISAPlugin I) : BootServiceCall M → IA64ISAPlugin I
  | .service call => EfiMapCall.step p call
  | .getMemoryMap g cpu memory => (handleEfiGetMemoryMap g (p.setCpu cpu) memory).2.1
  | .exitBootServices g cpu memory dst => (callExitBootServices g (p.setCpu cpu) memory dst).2.1

end BootServiceCall

end Model

/-! ## What the services can tell -/

/-- The same memory map and the same services: the processor and the bookkeeping may differ. -/
structure SameFirmware {I : Type} (p q : IA64ISAPlugin I) : Prop where
  memoryMap : p.memoryMap = q.memoryMap
  services : p.services = q.services

namespace SameFirmware
variable {I M : Type} [IMemory M] {p q : IA64ISAPlugin I} (memory : M)

theorem setCpu (h : SameFirmware p q) (cpu : CPUState) : SameFirmware (p.setCpu cpu) (q.setCpu cpu) :=
  ⟨h.memoryMap, h.services⟩

theorem setMemoryMap (h : SameFirmware p q) (m : EfiMemoryState) :
    SameFirmware (p.setMemoryMap m) (q.setMemoryMap m) := ⟨rfl, h.services⟩

theorem setCounters (h : SameFirmware p q) (c c' : EfiCounters) :
    SameFirmware (p.setCounters c) (q.setCounters c') := ⟨h.memoryMap, h.services⟩

theorem ensure (h : SameFirmware p q) (g : EfiHandoffGlobals) :
    (ensureEfiMemoryMap g p memory).1 = (ensureEfiMemoryMap g q memory).1 ∧
      SameFirmware (ensureEfiMemoryMap g p memory).2 (ensureEfiMemoryMap g q memory).2 := by
  have hmarks : ∀ physicalEnd, firmwareMarks g p memory physicalEnd = firmwareMarks g q memory physicalEnd := by
    intro physicalEnd
    unfold firmwareMarks
    rw [h.memoryMap, h.services]
  unfold ensureEfiMemoryMap
  simp only [h.memoryMap, hmarks]
  split
  · exact ⟨rfl, h⟩
  · split
    · exact ⟨rfl, ⟨rfl, h.services⟩⟩
    · exact ⟨rfl, ⟨rfl, h.services⟩⟩

/-- Two outcomes of a service: the same status, firmware and guest memory. -/
def Outcome (r r' : UInt64 × IA64ISAPlugin I × M) : Prop :=
  r.1 = r'.1 ∧ SameFirmware r.2.1 r'.2.1 ∧ r.2.2 = r'.2.2

variable (h : SameFirmware p q)
include h

variable {memory} in
omit [IMemory M] in
theorem outcome (status : UInt64) : Outcome (status, p, memory) (status, q, memory) :=
  ⟨rfl, h, rfl⟩

theorem allocatePool (g : EfiHandoffGlobals) (size : UInt64) (type : UInt32) (alignment : UInt64) :
    Outcome (allocateEfiPool g p memory size type alignment) (allocateEfiPool g q memory size type alignment) := by
  unfold allocateEfiPool
  dsimp only
  generalize (if alignment = 0 then 16 else alignment) = requestedAlignment
  split
  · exact h.outcome 0
  split
  · exact h.outcome 0
  obtain ⟨hready, hp⟩ := h.ensure memory g
  rw [hready, hp.memoryMap]
  split
  · exact hp.outcome 0
  split
  · exact hp.outcome 0
  split
  · exact hp.outcome 0
  split
  · exact hp.outcome 0
  · exact (hp.setMemoryMap _).outcome _

theorem allocateImagePages (g : EfiHandoffGlobals) (numberOfPages : UInt64) (type : UInt32) :
    (allocateEfiImagePages g p memory numberOfPages type).1 =
        (allocateEfiImagePages g q memory numberOfPages type).1 ∧
      SameFirmware (allocateEfiImagePages g p memory numberOfPages type).2
        (allocateEfiImagePages g q memory numberOfPages type).2 := by
  unfold allocateEfiImagePages
  split
  · exact ⟨rfl, h⟩
  obtain ⟨hready, hp⟩ := h.ensure memory g
  dsimp only
  rw [hready, hp.memoryMap]
  split
  · exact ⟨rfl, hp⟩
  split
  · exact ⟨rfl, hp⟩
  split
  · exact ⟨rfl, hp⟩
  · exact ⟨rfl, hp.setMemoryMap _⟩

section
variable (hcpu : p.cpu = q.cpu) (g : EfiHandoffGlobals)
include hcpu

theorem allocatePages : Outcome (handleEfiAllocatePages g p memory) (handleEfiAllocatePages g q memory) := by
  have hcounted := h.setCounters p.counters.countAllocatePages q.counters.countAllocatePages
  have hcpu' : (p.setCounters p.counters.countAllocatePages).cpu = (q.setCounters q.counters.countAllocatePages).cpu :=
    hcpu
  unfold handleEfiAllocatePages
  dsimp only
  rw [hcpu']
  split
  · exact hcounted.outcome _
  split
  · exact hcounted.outcome _
  split
  · exact hcounted.outcome _
  split
  · exact hcounted.outcome _
  obtain ⟨hready, hp⟩ := hcounted.ensure memory g
  rw [hready, hp.memoryMap]
  split
  · exact hp.outcome _
  split
  · exact hp.outcome _
  split
  · exact hp.outcome _
  split
  · exact hp.outcome _
  split
  · exact hp.outcome _
  split
  · exact hp.outcome _
  · exact (hp.setMemoryMap _).outcome _

theorem freePool : (handleEfiFreePool g p memory).1 = (handleEfiFreePool g q memory).1 ∧
      SameFirmware (handleEfiFreePool g p memory).2 (handleEfiFreePool g q memory).2 := by
  have hcounted := h.setCounters p.counters.countFreePool q.counters.countFreePool
  have hcpu' : (p.setCounters p.counters.countFreePool).cpu = (q.setCounters q.counters.countFreePool).cpu := hcpu
  unfold handleEfiFreePool
  dsimp only
  rw [hcpu']
  split
  · exact ⟨rfl, hcounted⟩
  obtain ⟨hready, hp⟩ := hcounted.ensure memory g
  rw [hready, hp.memoryMap]
  split
  · exact ⟨rfl, hp⟩
  split
  · exact ⟨rfl, hp⟩
  · exact ⟨rfl, hp.setMemoryMap _⟩

theorem getMemoryMap : Outcome (handleEfiGetMemoryMap g p memory) (handleEfiGetMemoryMap g q memory) := by
  have hcounted := h.setCounters p.counters.countGetMemoryMap q.counters.countGetMemoryMap
  have hcpu' : (p.setCounters p.counters.countGetMemoryMap).cpu = (q.setCounters q.counters.countGetMemoryMap).cpu :=
    hcpu
  unfold handleEfiGetMemoryMap
  dsimp only
  rw [hcpu']
  split
  · exact hcounted.outcome _
  obtain ⟨hready, hp⟩ := hcounted.ensure memory g
  rw [hready, hp.memoryMap]
  split
  · exact hp.outcome _
  split
  · exact hp.outcome _
  split
  · exact hp.outcome _
  split
  · exact hp.outcome _
  split
  · exact hp.outcome _
  · exact hp.outcome _

theorem allocatePoolStub : (Isa.allocatePoolStub g p memory).2 = (Isa.allocatePoolStub g q memory).2 ∧
      SameFirmware (Isa.allocatePoolStub g p memory).1 (Isa.allocatePoolStub g q memory).1 := by
  have hcounted := h.setCounters p.counters.countAllocatePool q.counters.countAllocatePool
  have hcpu' : (p.setCounters p.counters.countAllocatePool).cpu = (q.setCounters q.counters.countAllocatePool).cpu :=
    hcpu
  unfold Isa.allocatePoolStub
  dsimp only
  rw [hcpu']
  split
  · exact ⟨rfl, hcounted⟩
  obtain ⟨haddress, hp, hmemory⟩ := hcounted.allocatePool memory g
    (readCallerOutputRegister (q.setCounters q.counters.countAllocatePool).cpu 1)
    (readCallerOutputRegister (q.setCounters q.counters.countAllocatePool).cpu 0).toUInt32 0
  rw [haddress, hmemory]
  split
  · exact ⟨rfl, hp⟩
  · exact ⟨rfl, hp⟩

end

theorem releaseImage (imageBase numberOfPages : UInt64) :
    SameFirmware (p.releaseImage imageBase numberOfPages) (q.releaseImage imageBase numberOfPages) := by
  unfold IA64ISAPlugin.releaseImage
  rw [h.memoryMap]
  exact h.setMemoryMap _

theorem rollbackLoadImage (childHandle protocolAddress imageBase numberOfPages : UInt64) :
    SameFirmware (p.rollbackLoadImage childHandle protocolAddress imageBase numberOfPages)
      (q.rollbackLoadImage childHandle protocolAddress imageBase numberOfPages) := by
  unfold IA64ISAPlugin.rollbackLoadImage
  rw [h.memoryMap, h.services]
  exact ⟨rfl, rfl⟩

theorem registerChildImage (g : EfiHandoffGlobals)
    (parentHandle devicePath imageHandleOut protocolAddress imageBase numberOfPages imageSize entryPoint
      globalPointer : UInt64) :
    Outcome
      (Isa.registerChildImage g p memory parentHandle devicePath imageHandleOut protocolAddress imageBase
        numberOfPages imageSize entryPoint globalPointer)
      (Isa.registerChildImage g q memory parentHandle devicePath imageHandleOut protocolAddress imageBase
        numberOfPages imageSize entryPoint globalPointer) := by
  have hservices : ∀ s : EfiServices, SameFirmware { p with services := s } { q with services := s } :=
    fun s => ⟨h.memoryMap, rfl⟩
  unfold Isa.registerChildImage
  simp only [h.services]
  split
  · exact ((hservices _).rollbackLoadImage _ _ _ _).outcome _
  · split
    · exact ((hservices _).rollbackLoadImage _ _ _ _).outcome _
    · exact (hservices _).outcome _

theorem loadImage (hcpu : p.cpu = q.cpu) (g : EfiHandoffGlobals) (source : Except UInt64 ParsedImage) :
    Outcome (handleEfiLoadImage g p memory source) (handleEfiLoadImage g q memory source) := by
  unfold handleEfiLoadImage
  dsimp only
  rw [hcpu, h.services]
  split
  · exact h.outcome _
  split
  · exact h.outcome _
  split
  · exact h.outcome _
  next parsed =>
  split
  · exact h.outcome _
  obtain ⟨hbase, himage⟩ := h.allocateImagePages memory g
    ((parsed.sizeOfImage.toUInt64 + EFI_PAGE_SIZE - 1) / EFI_PAGE_SIZE) EFI_MEMORY_LOADER_CODE
  rw [hbase]
  split
  · exact himage.outcome _
  split
  · exact (himage.releaseImage _ _).outcome _
  split
  · exact (himage.releaseImage _ _).outcome _
  split
  · exact (himage.releaseImage _ _).outcome _
  next memory₂ _ =>
  obtain ⟨haddress, hpool, hmemory⟩ := himage.allocatePool memory₂ g 0x60 EFI_MEMORY_BOOT_SERVICES_DATA 0
  rw [haddress, hmemory]
  split
  · exact (hpool.releaseImage _ _).outcome _
  · exact hpool.registerChildImage _ g _ _ _ _ _ _ _ _ _

/-- **Step lemma** for every call but `ExitBootServices`. -/
theorem call (call : BootServiceCall M) (hcall : call.isExit = false) :
    call.result p = call.result q ∧ SameFirmware (call.step p) (call.step q) := by
  cases call with
  | exitBootServices => cases hcall
  | getMemoryMap g cpu memory =>
      obtain ⟨hstatus, hp, hmemory⟩ := (h.setCpu cpu).getMemoryMap memory rfl g
      exact ⟨congrArg Except.ok (Prod.ext hstatus hmemory), hp⟩
  | service call =>
      obtain ⟨g, cpu, memory, service⟩ := call
      have hset := h.setCpu cpu
      cases service with
      | ensureMap =>
          obtain ⟨hready, hp⟩ := hset.ensure memory g
          refine ⟨?_, hp⟩
          show Except.ok (if (ensureEfiMemoryMap g (p.setCpu cpu) memory).1 = true then _ else _, _) = _
          rw [hready]
          rfl
      | allocatePages =>
          obtain ⟨hstatus, hp, hmemory⟩ := hset.allocatePages memory rfl g
          exact ⟨congrArg Except.ok (Prod.ext hstatus hmemory), hp⟩
      | allocatePoolStub => exact hset.allocatePoolStub memory rfl g
      | allocatePool size memoryType alignment =>
          obtain ⟨haddress, hp, hmemory⟩ := hset.allocatePool memory g size memoryType alignment
          exact ⟨congrArg Except.ok (Prod.ext haddress hmemory), hp⟩
      | freePool =>
          obtain ⟨hstatus, hp⟩ := hset.freePool memory rfl g
          exact ⟨congrArg Except.ok (Prod.ext hstatus rfl), hp⟩
      | loadImage source =>
          obtain ⟨hstatus, hp, hmemory⟩ := hset.loadImage memory rfl g source
          exact ⟨congrArg Except.ok (Prod.ext hstatus hmemory), hp⟩
      | allocateImagePages numberOfPages memoryType =>
          obtain ⟨haddress, hp⟩ := hset.allocateImagePages memory g numberOfPages memoryType
          exact ⟨congrArg Except.ok (Prod.ext haddress rfl), hp⟩
      | releaseImagePages physicalStart numberOfPages =>
          refine ⟨?_, hset.releaseImage physicalStart numberOfPages⟩
          show Except.ok (if ((p.setCpu cpu).memoryMap.releaseEfiImagePages physicalStart numberOfPages).isSome
            then _ else _, _) = _
          rw [hset.memoryMap]
          rfl

end SameFirmware

/-! ## `ExitBootServices` -/

section Exit
variable {I M : Type} [IMemory M]

/-- **A call of `ExitBootServices`** returns success whatever it is called with, and leaves the memory map, the
    services and guest memory as they are. -/
theorem callExitBootServices_spec (g : EfiHandoffGlobals) (p : IA64ISAPlugin I) (memory : M) (dst : Fin 8) :
    (callExitBootServices g p memory dst).2.1.cpu.getGR 8 = EFI_STATUS_SUCCESS ∧
      SameFirmware (callExitBootServices g p memory dst).2.1 p ∧ (callExitBootServices g p memory dst).2.2 = memory := by
  have hstatus : ((p.cpu.setBR dst (p.cpu.ip + 16)).setGR 8 EFI_STATUS_SUCCESS).getGR 8 = EFI_STATUS_SUCCESS :=
    CPUState.getGR_setGR_self _ (by decide) (by decide) _
  unfold callExitBootServices finishBranch
  dsimp only
  split
  · exact ⟨hstatus, ⟨rfl, rfl⟩, rfl⟩
  · exact ⟨hstatus, ⟨rfl, rfl⟩, rfl⟩

/-- **`ExitBootServices` is granted always and noticed never.** In every run of boot service calls each
    `ExitBootServices` returns success, for any image handle and map key and whatever happened before, and leaves
    guest memory alone; all other calls return what they return, and leave the memory map as they leave it, in the
    run without the calls of `ExitBootServices`. -/
theorem exitBootServices_unnoticed (p : IA64ISAPlugin I) (calls : List (BootServiceCall M)) :
    EveryStep BootServiceCall.step (fun p call => ∀ g cpu memory dst,
        call = .exitBootServices g cpu memory dst → call.result p = .ok (EFI_STATUS_SUCCESS, memory)) p calls ∧
      returned BootServiceCall.step (fun p call => call.result p) BootServiceCall.isExit p calls =
        returned BootServiceCall.step (fun p call => call.result p) BootServiceCall.isExit p
          (calls.filter fun call => !call.isExit) ∧
      (run BootServiceCall.step p calls).memoryMap =
        (run BootServiceCall.step p (calls.filter fun call => !call.isExit)).memoryMap := by
  have hunnoticed := returned_filter (r := SameFirmware (I := I))
    (fun s t call h hcall => (h.call call hcall).1) (fun s t call h hcall => (h.call call hcall).2)
    (fun s t call h hcall => ?_) (s := p) (t := p) ⟨rfl, rfl⟩ calls
  · refine ⟨?_, hunnoticed.1, hunnoticed.2.memoryMap⟩
    refine everyStep_of_invariant (P := fun _ _ => True) (fun _ => True) (fun _ _ _ _ => trivial) ?_ trivial
      (everyStep_of_forall fun _ _ => trivial)
    rintro p call - - g cpu memory dst rfl
    obtain ⟨hstatus, _, hmemory⟩ := callExitBootServices_spec g (p.setCpu cpu) memory dst
    exact congrArg Except.ok (Prod.ext hstatus hmemory)
  · -- after the call the services are what they were before it
    cases call with
    | service => cases hcall
    | getMemoryMap => cases hcall
    | exitBootServices g cpu memory dst =>
        have hsame := (callExitBootServices_spec g (s.setCpu cpu) memory dst).2.1
        exact ⟨hsame.memoryMap.trans h.memoryMap, hsame.services.trans h.services⟩

/-- A caller that hands in map key 1. -/
def exitCpu : CPUState := CPUState.reset.setGR 33 1

/-- The map is reported, and then the pages of an image are allocated. -/
def reportAndAllocate : List (BootServiceCall SparseMemory) :=
  [.getMemoryMap resetEfiHandoffLayoutGlobals loaderCpu loaderMemory,
    .service ⟨resetEfiHandoffLayoutGlobals, .reset, loaderMemory, .allocateImagePages 1 EFI_MEMORY_LOADER_CODE⟩]

/-- `ExitBootServices` with map key 1. -/
def exitWithKeyOne : BootServiceCall SparseMemory :=
  .exitBootServices resetEfiHandoffLayoutGlobals exitCpu loaderMemory 0

/-- **Granted for an old key.** The key handed out is 1, the map has changed since, and the call returns success;
    afterwards a service still hands out memory and changes the map. -/
theorem exitBootServices_granted_for_old_key :
    let p : IA64ISAPlugin Unit := run BootServiceCall.step IA64ISAPlugin.reset.2 reportAndAllocate
    let q := exitWithKeyOne.step p
    let later : EfiMapCall SparseMemory :=
      ⟨resetEfiHandoffLayoutGlobals, .reset, loaderMemory, .allocateImagePages 2 EFI_MEMORY_LOADER_CODE⟩
    (run MapKeyMonitor.step (⟨IA64ISAPlugin.reset.2, []⟩ : MapKeyMonitor Unit)
        [.getMemoryMap resetEfiHandoffLayoutGlobals loaderCpu loaderMemory]).reports.map Prod.fst = [1] ∧
      readCallerOutputRegister exitCpu 1 = 1 ∧ p.memoryMap.efiMemoryMapKey = 2 ∧
      exitWithKeyOne.result p = .ok (EFI_STATUS_SUCCESS, loaderMemory) ∧
      later.result q = .ok (0x1FDFD000, loaderMemory) ∧
      (later.step q).memoryMap.efiMemoryMap ≠ q.memoryMap.efiMemoryMap := by
  intro p q later
  refine ⟨by decide +kernel, by decide +kernel, by decide +kernel, ?_, ?_, by decide +kernel⟩
  · obtain ⟨hstatus, _, hmemory⟩ := callExitBootServices_spec resetEfiHandoffLayoutGlobals (p.setCpu exitCpu)
      loaderMemory 0
    exact congrArg Except.ok (Prod.ext hstatus hmemory)
  · have haddress : (allocateEfiImagePages resetEfiHandoffLayoutGlobals (q.setCpu .reset) loaderMemory 2
        EFI_MEMORY_LOADER_CODE).1 = 0x1FDFD000 := by decide +kernel
    exact congrArg (fun a => Except.ok (a, loaderMemory)) haddress

end Exit

end GuideXOS.Isa
