import GuideXOS.Loader.ElfFile

/-!
# `HeaderParsing` — the members of `ELFLoader`, and `ParseHeader`

`ParseHeader` copies the header and the program headers into members of the loader, which start out as what an earlier load
left there. The loop compares pointers: the end of an entry with the end of the file, both in the host's address space.
-/

/-!
## The interpreter path and the dynamic table

Both functions walk the program header table up to the first entry whose end is past the end of the file, and look for one
segment. The header is read through a pointer, which `GetDynamicTag` does without a look at the size of the file.
-/

namespace GuideXOS.Loader
open Lib Lib.Bounds

/-- `std::length_error`, of a string that is too long. -/
inductive StringError where
  | lengthError
  deriving DecidableEq

namespace DynamicLinker
variable (b : ElfBuffer)

/-- A turn of the loop of `GetInterpreterPath`. -/
def interpreterTurn (phoff : UInt64) (phentsize : UInt16) (i : Nat) (_ : Unit) :
    Checked StringError (Turn Unit (List UInt8)) :=
  let offset := entryOffset phoff phentsize i
  if offset + UInt64.ofNat phdrSize > b.size then .ok (.leave [])
  else do
    let phdr := Phdr.ofBytes (← b.record offset phdrSize)
    if phdr.p_type = PT_INTERP then
      if phdr.p_offset + phdr.p_filesz ≤ b.size then
        return .leave (← b.stringAt .lengthError phdr.p_offset (phdr.p_filesz - 1))
      else return .next ()
    else return .next ()

/-- **`GetInterpreterPath`.** -/
def getInterpreterPath : Checked StringError (List UInt8) :=
  if b.size < UInt64.ofNat ehdrSize then .ok []
  else do
    let ehdr := Ehdr.ofBytes (← b.record 0 ehdrSize)
    loop (interpreterTurn b ehdr.e_phoff ehdr.e_phentsize) (fun _ => []) ehdr.e_phnum.toNat 0 ()

/-- A turn of the loop that looks for the dynamic segment. -/
def dynamicSegmentTurn (phoff : UInt64) (phentsize : UInt16) (i : Nat) (_ : Unit) :
    Checked Empty (Turn Unit (UInt64 × UInt64)) :=
  let offset := entryOffset phoff phentsize i
  if offset + UInt64.ofNat phdrSize > b.size then .ok (.leave (0, 0))
  else do
    let phdr := Phdr.ofBytes (← b.record offset phdrSize)
    if phdr.p_type = PT_DYNAMIC then return .leave (phdr.p_offset, phdr.p_filesz) else return .next ()

/-- The `i`-th entry of the dynamic table. -/
def dynOffset (dynamicOffset : UInt64) (i : Nat) : UInt64 := dynamicOffset + UInt64.ofNat i * UInt64.ofNat dynSize

/-- A turn of the loop over the dynamic table. -/
def dynamicTagTurn (dynamicOffset tag : UInt64) (i : Nat) (_ : Unit) : Checked Empty (Turn Unit (Option UInt64)) :=
  let offset := dynOffset dynamicOffset i
  if offset + UInt64.ofNat dynSize > b.size then .ok (.leave none)
  else do
    let dyn := Dyn.ofBytes (← b.record offset dynSize)
    if dyn.d_tag = DT_NULL then return .leave none
    else if dyn.d_tag = tag then return .leave (some dyn.d_val)
    else return .next ()

/-- The tag in the dynamic table of the segment that was found, its offset and its size. -/
def lookUpTag (tag : UInt64) (segment : UInt64 × UInt64) : Checked Empty (Option UInt64) :=
  if segment.1 = 0 then .ok none
  else loop (dynamicTagTurn b segment.1 tag) (fun _ => none) (segment.2 / UInt64.ofNat dynSize).toNat 0 ()

/-- **`GetDynamicTag`**: the value, if the tag is there. -/
def getDynamicTag (tag : UInt64) : Checked Empty (Option UInt64) := do
  let phoff := Words.wordOfBytes (← b.record 32 8)
  let phnum := (Words.wordOfBytes (← b.record 56 2)).toUInt16
  let phentsize := (Words.wordOfBytes (← b.record 54 2)).toUInt16
  let segment ← loop (dynamicSegmentTurn b phoff phentsize) (fun _ => (0, 0)) phnum.toNat 0 ()
  lookUpTag b tag segment

end DynamicLinker

end GuideXOS.Loader

/-!
## The checks of a kernel image

`ValidateKernelBuffer` checks the header, copies the program headers and collects what is wrong with them. The table is
compared with the size of the file once, as a whole.

* Of the requirements only what `CanBootKernel` reads is modelled. The memory and the stack checks of a mode give only
  warnings and figures of the report.
-/

namespace GuideXOS.Loader
open Lib Lib.Bounds

inductive ValidationMode where
  | minimal
  | standard
  | strict
  | kernel
  deriving DecidableEq

structure KernelRequirements where
  isIA64 : Bool := false
  isELF64 : Bool := false
  entryPoint : UInt64 := 0
  entryPointAligned : Bool := false
  hasValidEntryPoint : Bool := false
  hasCodeSegment : Bool := false
  errors : List String := []
  deriving DecidableEq

namespace KernelRequirements

variable (req : KernelRequirements)

def fail (error : String) : KernelRequirements :=
  { req with errors := req.errors ++ [error] }

/-- **`CanBootKernel`.** -/
def canBootKernel : Bool :=
  if !req.errors.isEmpty then false
  else if !req.hasValidEntryPoint || !req.entryPointAligned then false
  else if !req.hasCodeSegment then false
  else if !req.isIA64 || !req.isELF64 then false
  else true

end KernelRequirements

namespace KernelValidator

def KERNEL_REGION_START : UInt64 := 0xE000000000000000
def USER_REGION_END : UInt64 := 0x0000800000000000

def isKernelAddress (address : UInt64) : Bool := decide (KERNEL_REGION_START ≤ address)
def isUserAddress (address : UInt64) : Bool := decide (address < USER_REGION_END)

/-- `ValidateArchitecture`. -/
def validateArchitecture (ehdr : Ehdr) (req : KernelRequirements) : KernelRequirements :=
  if ehdr.e_ident.take 4 ≠ ELFMAG then req.fail "Invalid ELF magic number"
  else if ehdr.e_ident[EI_CLASS]? ≠ some ELFCLASS64 then req.fail "Not a 64-bit ELF file"
  else
    let req : KernelRequirements := { req with isELF64 := true }
    if ehdr.e_ident[EI_DATA]? ≠ some ELFDATA2LSB then req.fail "Not little-endian (required for IA-64)"
    else if ehdr.e_machine ≠ EM_IA_64 then
      req.fail ("Not an IA-64 binary (machine type: " ++ toString ehdr.e_machine.toNat ++ ")")
    else
      let req : KernelRequirements := { req with isIA64 := true }
      if ehdr.e_type ≠ ET_EXEC ∧ ehdr.e_type ≠ ET_DYN then req.fail "Not an executable or shared object"
      else req

/-- The entry point is in the segment. -/
def inSegment (entryPoint : UInt64) (phdr : Phdr) : Bool :=
  decide (phdr.p_vaddr ≤ entryPoint ∧ entryPoint < phdr.p_vaddr + phdr.p_memsz)

/-- The loop of `ValidateEntryPoint`: the segment of the entry point is executable, or what is wrong. -/
def executableEntry (entryPoint : UInt64) : List Phdr → Option String
  | [] => some "Entry point not found in any loadable segment"
  | phdr :: phdrs =>
      if phdr.p_type = PT_LOAD ∧ inSegment entryPoint phdr = true then
        if phdr.p_flags &&& PF_X ≠ 0 then none else some "Entry point is in non-executable segment"
      else executableEntry entryPoint phdrs

/-- `ValidateEntryPoint`. -/
def validateEntryPoint (ehdr : Ehdr) (phdrs : List Phdr) (req : KernelRequirements) : KernelRequirements :=
  let req : KernelRequirements := { req with entryPoint := ehdr.e_entry }
  if req.entryPoint = 0 then req.fail "Entry point is zero (invalid for kernel)"
  else if req.entryPoint &&& 0xF ≠ 0 then req.fail "Entry point not aligned to 16-byte boundary"
  else
    let req : KernelRequirements := { req with entryPointAligned := true }
    match executableEntry req.entryPoint phdrs with
    | some error => req.fail error
    | none => { req with hasValidEntryPoint := true }

/-- The body of the loop of `ValidateSegmentLayout`. -/
def validateSegment (req : KernelRequirements) (phdr : Phdr) : KernelRequirements :=
  if phdr.p_type ≠ PT_LOAD then req
  else
    let req := if phdr.p_flags &&& PF_X ≠ 0 ∧ phdr.p_flags &&& PF_R ≠ 0 then { req with hasCodeSegment := true } else req
    let req :=
      if phdr.p_align > 1 then
        let req := if phdr.p_align &&& (phdr.p_align - 1) ≠ 0 then req.fail "Segment alignment is not power of 2" else req
        if phdr.p_vaddr % phdr.p_align ≠ phdr.p_offset % phdr.p_align then
          req.fail "Segment address/offset not congruent modulo alignment"
        else req
      else req
    if phdr.p_filesz > phdr.p_memsz then req.fail "Segment file size exceeds memory size" else req

/-- `ValidateSegmentLayout`. -/
def validateSegmentLayout (phdrs : List Phdr) (req : KernelRequirements) : KernelRequirements :=
  let req := phdrs.foldl validateSegment req
  if req.hasCodeSegment then req else req.fail "No executable code segment found"

/-- `ValidateKernelSpecific`. -/
def validateKernelSpecific (phdrs : List Phdr) (req : KernelRequirements) : KernelRequirements :=
  phdrs.foldl (fun req phdr =>
    if phdr.p_type = PT_LOAD ∧ isUserAddress phdr.p_vaddr = true ∧ isKernelAddress (phdr.p_vaddr + phdr.p_memsz) = true
    then req.fail "Segment spans user and kernel address spaces" else req) req

/-- What is checked once the program headers are there. -/
def validatePhdrs (mode : ValidationMode) (ehdr : Ehdr) (req : KernelRequirements) (phdrs : List Phdr) :
    KernelRequirements :=
  let req := validateSegmentLayout phdrs (validateEntryPoint ehdr phdrs req)
  match mode with
  | .kernel => validateKernelSpecific phdrs req
  | .minimal | .standard | .strict => req

variable (b : ElfBuffer)

/-- A turn of the loop that copies the program headers. -/
def phdrTurn (ehdr : Ehdr) (i : Nat) (phdrs : List Phdr) : Checked Empty (Turn (List Phdr) (List Phdr)) := do
  let record ← b.record (entryOffset ehdr.e_phoff ehdr.e_phentsize i) phdrSize
  return .next (phdrs ++ [Phdr.ofBytes record])

/-- The end of the program header table, computed in 64 bits. -/
def phdrEnd (ehdr : Ehdr) : UInt64 := ehdr.e_phoff + ehdr.e_phnum.toUInt64 * ehdr.e_phentsize.toUInt64

/-- **`ValidateKernelBuffer`.** -/
def validateKernelBuffer (mode : ValidationMode) : Checked Empty KernelRequirements :=
  if b.size < UInt64.ofNat ehdrSize then
    .ok (KernelRequirements.fail {} "File too small to be a valid ELF64 binary")
  else do
    let ehdr := Ehdr.ofBytes (← b.record 0 ehdrSize)
    let req := validateArchitecture ehdr {}
    if !req.isIA64 || !req.isELF64 then return req
    else if ehdr.e_phoff > 0 ∧ ehdr.e_phnum > 0 then
      if phdrEnd ehdr > b.size then return req.fail "Program header table extends beyond file size"
      else return validatePhdrs mode ehdr req (← loop (phdrTurn b ehdr) id ehdr.e_phnum.toNat 0 [])
    else return validatePhdrs mode ehdr req []

end KernelValidator

structure LoadedSegment where
  virtualAddress : UInt64
  physicalAddress : UInt64
  fileOffset : UInt64
  size : UInt64
  memorySize : UInt64
  flags : UInt32
  type : UInt32

structure ELFLoader where
  header : Ehdr
  programHeaders : List Phdr
  segments : List LoadedSegment
  entryPoint : UInt64
  baseAddress : UInt64
  dynamicAddr : UInt64
  dynamicSize : UInt64
  isLoaded : Bool
  elfType : UInt16
  hasInterpreter : Bool
  interpreterPath : List UInt8
  kernelValidationEnabled : Bool

namespace ELFLoader
variable (b : ElfBuffer)

/-- The end of an entry, as a pointer. -/
def entryEnd (header : Ehdr) (i : Nat) : UInt64 :=
  b.base + entryOffset header.e_phoff header.e_phentsize i + UInt64.ofNat phdrSize

/-- What `ParseHeader` notes of a program header: that it is there, and a dynamic segment. -/
def note (loader : ELFLoader) (phdr : Phdr) : ELFLoader :=
  let loader := { loader with programHeaders := loader.programHeaders ++ [phdr] }
  if phdr.p_type = PT_DYNAMIC then { loader with dynamicAddr := phdr.p_vaddr, dynamicSize := phdr.p_memsz } else loader

/-- A turn of the loop of `ParseHeader`. -/
def headerTurn (header : Ehdr) (i : Nat) (loader : ELFLoader) :
    Checked StringError (Turn ELFLoader (Bool × ELFLoader)) :=
  if entryEnd b header i > b.base + b.size then .ok (.leave (false, loader))
  else do
    let phdr := Phdr.ofBytes (← b.record (entryOffset header.e_phoff header.e_phentsize i) phdrSize)
    let loader := loader.note phdr
    if phdr.p_type = PT_INTERP then
      let loader := { loader with hasInterpreter := true }
      if phdr.p_offset + phdr.p_filesz ≤ b.size then
        let path ← b.stringAt .lengthError phdr.p_offset (phdr.p_filesz - 1)
        return .next { loader with interpreterPath := path }
      else return .next loader
    else return .next loader

/-- **`ParseHeader`.** -/
def parseHeader (loader : ELFLoader) : Checked StringError (Bool × ELFLoader) :=
  if b.size < UInt64.ofNat ehdrSize then .ok (false, loader)
  else do
    let header := Ehdr.ofBytes (← b.record 0 ehdrSize)
    let loader : ELFLoader :=
      { loader with header := header, entryPoint := header.e_entry, elfType := header.e_type, baseAddress := 0 }
    if header.e_phoff > 0 ∧ header.e_phnum > 0 then
      loop (headerTurn b header) (fun loader => (true, loader)) header.e_phnum.toNat 0 loader
    else return (true, loader)

end ELFLoader

end GuideXOS.Loader
