import GuideXOS.Core.RawWrites
import GuideXOS.Loader.HeaderParsing

/-!
# `ElfLoader` — `LoadBuffer`

The file is checked first, without a look at guest memory; then the segments are written one after the other, each after one
more check of its place in the file; last the processor is set up. A call returns what it throws beside the memory and the
processor that it leaves.

* Relocations are not applied by `LoadBuffer`. The members of the loader after an exception are left out.
-/

/-!
## The processor a kernel starts on

`InitializeKernelBootstrapState` resets the processor and sets every register. The stack is not touched: its top is rounded
down. Of the configuration only what a register is set from is modelled.
-/

namespace GuideXOS.Loader
open GuideXOS.Core

def KERNEL_STACK_TOP : UInt64 := 0xA000000000000
def DEFAULT_BACKING_STORE_BASE : UInt64 := 0x80000000000

def PSR_IC : UInt64 := (1 : UInt64) <<< 13
def PSR_DT : UInt64 := (1 : UInt64) <<< 17
def PSR_RT : UInt64 := (1 : UInt64) <<< 27
def PSR_IT : UInt64 := (1 : UInt64) <<< 36

def INITIAL_KERNEL_PSR : UInt64 := (1 : UInt64) <<< 44
def INITIAL_KERNEL_RSC : UInt64 := 3

structure KernelBootstrapConfig where
  entryPoint : UInt64 := 0
  stackTop : UInt64 := KERNEL_STACK_TOP
  backingStoreBase : UInt64 := DEFAULT_BACKING_STORE_BASE
  globalPointer : UInt64 := 0
  bootParamAddress : UInt64 := 0
  enableVirtualAddressing : Bool := false

def setupKernelStack (config : KernelBootstrapConfig) : UInt64 := config.stackTop &&& ~~~15

/-- Registers set to zero one after the other. -/
def clearGR (cpu : CPUState) (registers : List (Fin 128)) : CPUState :=
  registers.foldl (fun cpu i => cpu.setGR i 0) cpu

def initializeKernelGeneralRegisters (cpu : CPUState) (stackPointer globalPointer bootParamAddress : UInt64) : CPUState :=
  let cpu := (((cpu.setGR 0 0).setGR 1 globalPointer).setGR 12 stackPointer).setGR 13 0
  let cpu := cpu.setGR 28 bootParamAddress
  clearGR cpu ((List.finRange 128).filter fun i => decide (2 ≤ i) && !decide (i = 12) && !decide (i = 13) && !decide (i = 28))

def initializePredicateAndBranchRegisters (cpu : CPUState) : CPUState :=
  let cpu := (List.finRange 64).foldl (fun cpu i => cpu.setPR i (decide (i = 0))) cpu
  (List.finRange 8).foldl (fun cpu i => cpu.setBR i 0) cpu

def initializeKernelApplicationRegisters (cpu : CPUState) (config : KernelBootstrapConfig) : CPUState :=
  let cpu := cpu.setAR 16 INITIAL_KERNEL_RSC
  let cpu := cpu.setAR 17 config.backingStoreBase
  let cpu := cpu.setAR 18 config.backingStoreBase
  let cpu := cpu.setAR 19 0
  let cpu := cpu.setAR 40 0x0009804C0270033F
  let cleared : List (Fin 128) := [64, 65, 66, 36, 32, 25]
  let cpu := cleared.foldl (fun cpu i => cpu.setAR i 0) cpu
  let rest := (List.finRange 128).filter fun i => !decide (i ∈ (16 :: 17 :: 18 :: 19 :: 40 :: cleared : List (Fin 128)))
  rest.foldl (fun cpu i => cpu.setAR i 0) cpu

/-- **`InitializeKernelBootstrapState`**: the processor, and the stack pointer. -/
def initializeKernelBootstrapState (config : KernelBootstrapConfig) : CPUState × UInt64 :=
  let stackPointer := setupKernelStack config
  let cpu := initializeKernelGeneralRegisters .reset stackPointer config.globalPointer config.bootParamAddress
  let cpu := initializeKernelApplicationRegisters (initializePredicateAndBranchRegisters cpu) config
  let cpu := (cpu.setIP config.entryPoint).setCFM 0
  let psr :=
    if config.enableVirtualAddressing then INITIAL_KERNEL_PSR ||| PSR_IC ||| PSR_DT ||| PSR_RT ||| PSR_IT
    else INITIAL_KERNEL_PSR
  (cpu.setPSR psr, stackPointer)

end GuideXOS.Loader

namespace GuideXOS.Loader
open Lib Lib.Bounds GuideXOS.Core

inductive ElfError where
  | string (e : StringError)
  | runtimeError (what : String)
  | kernelValidation (requirements : KernelRequirements)
  | memory (e : MemoryError)

def PAGE_SIZE : UInt64 := 4096
def MAX_SEGMENT_SIZE : UInt64 := 2 * 1024 * 1024 * 1024

def elfTypeName (type : UInt16) : String :=
  if type = 0 then "NONE"
  else if type = ET_REL then "REL"
  else if type = ET_EXEC then "EXEC"
  else if type = ET_DYN then "DYN"
  else if type = ET_CORE then "CORE"
  else "UNKNOWN"

/-- `describeElfValidationFailure`: nothing, if the header is that of an IA-64 ELF file. -/
def describeElfValidationFailure (b : ElfBuffer) : Option String :=
  if b.size < UInt64.ofNat ehdrSize then some "file found but too small to be ELF64"
  else
    let ehdr := Ehdr.ofBytes (b.peek 0 ehdrSize)
    if ehdr.e_ident.take 4 ≠ ELFMAG then some "file found but not ELF: invalid magic"
    else if ehdr.e_ident[EI_CLASS]? ≠ some ELFCLASS64 then some "ELF is not ELF64"
    else if ehdr.e_ident[EI_DATA]? ≠ some ELFDATA2LSB then some "ELF64 is not little-endian"
    else if ehdr.e_ident[EI_VERSION]? ≠ some EV_CURRENT ∨ ehdr.e_version ≠ EV_CURRENT.toUInt32 then
      some "ELF version is not current"
    else if ehdr.e_machine ≠ EM_IA_64 then
      some ("ELF but not IA-64 (machine=" ++ toString ehdr.e_machine.toNat ++ ")")
    else if ehdr.e_type ≠ ET_EXEC ∧ ehdr.e_type ≠ ET_DYN ∧ ehdr.e_type ≠ ET_REL ∧ ehdr.e_type ≠ ET_CORE then
      some ("unsupported ELF type " ++ elfTypeName ehdr.e_type)
    else if ehdr.e_ehsize.toNat ≠ ehdrSize then some "ELF header size mismatch"
    else if ehdr.e_phentsize ≠ 0 ∧ ehdr.e_phentsize.toNat ≠ phdrSize then some "program header entry size mismatch"
    else none

namespace ELFLoader

/-! ## The checks -/

def validateArchitecture (ehdr : Ehdr) : Bool :=
  decide (ehdr.e_ident.take 4 = ELFMAG) &&
  decide (ehdr.e_ident[EI_CLASS]? = some ELFCLASS64) &&
  decide (ehdr.e_ident[EI_DATA]? = some ELFDATA2LSB) &&
  decide (ehdr.e_ident[EI_VERSION]? = some EV_CURRENT ∧ ehdr.e_version = EV_CURRENT.toUInt32) &&
  decide (ehdr.e_machine = EM_IA_64) &&
  decide (ehdr.e_type = ET_EXEC ∨ ehdr.e_type = ET_DYN) &&
  decide (ehdr.e_ehsize.toNat = ehdrSize) &&
  decide (ehdr.e_phentsize = 0 ∨ ehdr.e_phentsize.toNat = phdrSize) &&
  decide (ehdr.e_phnum.toNat ≤ 65535 / phdrSize)

/-- The loop of `ValidateEntryPoint`: the first segment with the entry point is executable. -/
def executableEntry (entryPoint : UInt64) : List Phdr → Bool
  | [] => false
  | phdr :: phdrs =>
      if phdr.p_type = PT_LOAD ∧ phdr.p_vaddr ≤ entryPoint ∧ entryPoint < phdr.p_vaddr + phdr.p_memsz then
        decide (phdr.p_flags &&& PF_X ≠ 0)
      else executableEntry entryPoint phdrs

def validateEntryPoint (ehdr : Ehdr) (phdrs : List Phdr) : Bool :=
  if ehdr.e_entry = 0 then decide (ehdr.e_type = ET_DYN)
  else if ehdr.e_entry &&& 0xF ≠ 0 then false
  else executableEntry ehdr.e_entry phdrs

def validateSegmentAlignment (phdr : Phdr) : Bool :=
  if phdr.p_type ≠ PT_LOAD then true
  else if phdr.p_align ≠ 0 ∧ phdr.p_align ≠ 1 ∧ phdr.p_align &&& (phdr.p_align - 1) ≠ 0 then false
  else if phdr.p_align > 1 ∧ phdr.p_vaddr % phdr.p_align ≠ phdr.p_offset % phdr.p_align then false
  else if phdr.p_align > 1 ∧ phdr.p_align ≥ PAGE_SIZE ∧ phdr.p_vaddr % phdr.p_align ≠ 0 then false
  else decide (phdr.p_filesz ≤ phdr.p_memsz)

def validateMemorySafety (phdr : Phdr) (fileSize memorySize : UInt64) : Bool :=
  if phdr.p_type ≠ PT_LOAD then true
  else if phdr.p_filesz > 0 ∧
      (phdr.p_offset + phdr.p_filesz < phdr.p_offset ∨ phdr.p_offset + phdr.p_filesz > fileSize) then false
  else if phdr.p_memsz > 0 ∧
      (phdr.p_vaddr + phdr.p_memsz < phdr.p_vaddr ∨ phdr.p_vaddr + phdr.p_memsz > memorySize) then false
  else if phdr.p_paddr ≠ 0 ∧ phdr.p_memsz > 0 ∧ phdr.p_paddr + phdr.p_memsz < phdr.p_paddr then false
  else decide (phdr.p_memsz ≤ MAX_SEGMENT_SIZE)

/-- The loop over the segments that `LoadBuffer` makes before it loads them. -/
def validateSegments (fileSize memorySize : UInt64) : List Phdr → Checked ElfError Unit
  | [] => .ok ()
  | phdr :: phdrs =>
      if !validateSegmentAlignment phdr then
        .error (.threw (.runtimeError "segment alignment validation failed"))
      else if !validateMemorySafety phdr fileSize memorySize then
        .error (.threw (.runtimeError "segment memory safety validation failed"))
      else validateSegments fileSize memorySize phdrs

variable (b : ElfBuffer)

/-- The members that `LoadBuffer` clears. -/
def cleared (loader : ELFLoader) : ELFLoader :=
  { loader with
    programHeaders := []
    segments := []
    entryPoint := 0
    baseAddress := 0
    dynamicAddr := 0
    dynamicSize := 0
    hasInterpreter := false
    interpreterPath := []
    isLoaded := false
    elfType := 0 }

/-- The optional validation of a kernel. -/
def validateKernel (enabled : Bool) : Checked ElfError Unit :=
  if enabled then do
    let requirements ← rethrow Empty.elim (KernelValidator.validateKernelBuffer b .kernel)
    if requirements.canBootKernel then return () else .error (.threw (.kernelValidation requirements))
  else .ok ()

/-- What `LoadBuffer` checks of the headers that `ParseHeader` has copied. -/
def checkImage (memorySize : UInt64) (loader : ELFLoader) : Checked ElfError Unit :=
  let ehdr := loader.header
  if ehdr.e_type ≠ ET_EXEC then
    .error (.threw (.runtimeError ("unsupported ELF type " ++ elfTypeName ehdr.e_type ++
      " (minimal IA-64 Linux handoff supports ET_EXEC only)")))
  else if !validateArchitecture ehdr then .error (.threw (.runtimeError "ELF architecture validation failed"))
  else if !validateEntryPoint ehdr loader.programHeaders then
    .error (.threw (.runtimeError "invalid entry point: not aligned or not in executable segment"))
  else do
    validateKernel b loader.kernelValidationEnabled
    validateSegments b.size memorySize loader.programHeaders

/-- `LoadBuffer` up to the first write. -/
def prepare (memorySize : UInt64) (loader : ELFLoader) : Checked ElfError ELFLoader :=
  match describeElfValidationFailure b with
  | some failure => .error (.threw (.runtimeError failure))
  | none => do
      let (parsed, loader) ← rethrow .string (loader.cleared.parseHeader b)
      if !parsed then .error (.threw (.runtimeError "failed to parse ELF header/program headers"))
      else
        loader.checkImage b memorySize
        return loader

/-! ## The segments -/

section Segments
variable {D : Type}

/-- The stores of a segment: its bytes in the file, then zeroes. -/
def segmentWrites (loadAddr : UInt64) (phdr : Phdr) (data : List UInt8) : List RawWrite :=
  [⟨loadAddr, data⟩, ⟨loadAddr + phdr.p_filesz, List.replicate (phdr.p_memsz.toNat - phdr.p_filesz.toNat) 0⟩]

/-- The body of the second loop of `LoadSegments`. -/
def loadSegment (baseAddress : UInt64) (phdr : Phdr) (memory : Memory D) : Checked ElfError LoadedSegment × Memory D :=
  let loadAddr := baseAddress + phdr.p_vaddr
  if phdr.p_offset + phdr.p_filesz > b.size then
    (.error (.threw (.runtimeError "Segment extends beyond file size")), memory)
  else
    match b.record phdr.p_offset phdr.p_filesz.toNat with
    | .error e => (.error e, memory)
    | .ok data =>
        let written := memory.writeAll (segmentWrites loadAddr phdr data)
        match written.1 with
        | .error e => (.error (.threw (.memory e)), written.2)
        | .ok () =>
            (.ok ⟨loadAddr, loadAddr, phdr.p_offset, phdr.p_filesz, phdr.p_memsz, phdr.p_flags, phdr.p_type⟩, written.2)

/-- The second loop of `LoadSegments`. -/
def loadAll (baseAddress : UInt64) : List Phdr → Memory D → Checked ElfError (List LoadedSegment) × Memory D
  | [], memory => (.ok [], memory)
  | phdr :: phdrs, memory =>
      if phdr.p_type ≠ PT_LOAD then loadAll baseAddress phdrs memory
      else
        let loaded := loadSegment b baseAddress phdr memory
        match loaded.1 with
        | .error e => (.error e, loaded.2)
        | .ok segment =>
            let rest := loadAll baseAddress phdrs loaded.2
            (rest.1.map (segment :: ·), rest.2)

/-- The lowest address of a segment, or the highest number there is. -/
def minVAddr (phdrs : List Phdr) : UInt64 :=
  phdrs.foldl (fun low phdr => if phdr.p_type = PT_LOAD ∧ phdr.p_vaddr < low then phdr.p_vaddr else low)
    0xFFFFFFFFFFFFFFFF

/-- **`LoadSegments`**: whether there is a segment. -/
def loadSegments (loader : ELFLoader) (memory : Memory D) : Checked ElfError (Bool × ELFLoader) × Memory D :=
  let baseAddress :=
    if loader.elfType = ET_DYN ∧ minVAddr loader.programHeaders > 0 then 0x400000 else loader.baseAddress
  let loaded := loadAll b baseAddress loader.programHeaders memory
  (loaded.1.map fun segments =>
    let entryPoint :=
      if loader.elfType = ET_DYN then baseAddress + loader.header.e_entry else loader.header.e_entry
    (!segments.isEmpty, { loader with baseAddress := baseAddress, segments := segments, entryPoint := entryPoint }),
  loaded.2)

/-- **`LoadBuffer`**: the entry point, and the loader. -/
def loadBuffer (loader : ELFLoader) (memory : Memory D) (cpu : CPUState) :
    Checked ElfError (UInt64 × ELFLoader) × Memory D × CPUState :=
  match loader.prepare b (UInt64.ofNat memory.ram.data.length) with
  | .error e => (.error e, memory, cpu)
  | .ok loader =>
      let loaded := loader.loadSegments b memory
      match loaded.1 with
      | .error e => (.error e, loaded.2, cpu)
      | .ok (false, _) => (.error (.threw (.runtimeError "failed to load ELF segments")), loaded.2, cpu)
      | .ok (true, loader) =>
          let cpu := (initializeKernelBootstrapState { entryPoint := loader.entryPoint }).1
          (.ok (loader.entryPoint, { loader with isLoaded := true }), loaded.2, cpu)

end Segments

end ELFLoader

end GuideXOS.Loader
