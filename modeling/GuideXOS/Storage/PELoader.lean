import GuideXOS.Lib.Bounds

/-!
# `PELoader` — an image in a buffer of its own

`loadImage` allocates the image, copies the headers, maps the sections, finds the entry point, which may be behind a
function descriptor, and applies the relocations. Failed relocations are only warned of.
-/

/-!
## The headers of a PE/COFF image

`parse` reads the DOS header, the PE signature, the COFF header, the optional header with one of its data directories, and
the section table. Offsets of headers are kept in 32 bits and compared with the size of the file in 64.

* A `false` result ends the call; which check gave it is only logged.
* Fields that no operation reads, and the data that is only logged, are left out.
-/

namespace GuideXOS.Storage.PE
open Lib Lib.Words Lib.Bounds

/-- What a call that returns `false` ends with. -/
inductive Rejected where
  | rejected
  deriving DecidableEq

abbrev Parser (α : Type) := Checked Rejected α

def reject {α : Type} : Parser α := .error (.threw .rejected)

def dosHeaderSize : Nat := 64
def peHeaderSize : Nat := 4
def coffHeaderSize : Nat := 20
def optionalHeaderSize : Nat := 112
def dataDirectorySize : Nat := 8
def sectionHeaderSize : Nat := 40
def baseRelocationDirectoryIndex : Nat := 5

def IMAGE_FILE_MACHINE_IA64 : UInt16 := 0x200
def IMAGE_SUBSYSTEM_EFI_APPLICATION : UInt16 := 10
def IMAGE_SUBSYSTEM_EFI_RUNTIME_DRIVER : UInt16 := 12
def IMAGE_SCN_MEM_EXECUTE : UInt32 := 0x20000000

structure COFFHeader where
  machine : UInt16
  numberOfSections : UInt16
  sizeOfOptionalHeader : UInt16

/-- Addresses and sizes are widened from 32 bits. -/
structure PESectionInfo where
  name : List UInt8
  virtualAddress : UInt64
  virtualSize : UInt64
  rawDataOffset : UInt32
  rawDataSize : UInt32
  characteristics : UInt32
  virtualAddress_lt : virtualAddress.toNat < 2 ^ 32
  virtualSize_lt : virtualSize.toNat < 2 ^ 32

structure PEImageInfo where
  machine : UInt16 := 0
  subsystem : UInt16 := 0
  imageBase : UInt64 := 0
  entryPoint : UInt64 := 0
  sizeOfImage : UInt32 := 0
  sizeOfHeaders : UInt32 := 0
  relocationDirectoryRva : UInt32 := 0
  relocationDirectorySize : UInt32 := 0
  sections : List PESectionInfo := []

/-- `section.virtualAddress + std::max(section.virtualSize, section.rawDataSize)`. -/
def PESectionInfo.memoryEnd (s : PESectionInfo) : UInt64 :=
  s.virtualAddress + if s.virtualSize < s.rawDataSize.toUInt64 then s.rawDataSize.toUInt64 else s.virtualSize

/-- An address is in the virtual range of a section. -/
def PESectionInfo.covers (s : PESectionInfo) (rva : UInt64) : Bool :=
  decide (s.virtualAddress ≤ rva ∧ rva < s.virtualAddress + s.virtualSize)

def PESectionInfo.isExecutable (s : PESectionInfo) : Bool := decide (s.characteristics &&& IMAGE_SCN_MEM_EXECUTE ≠ 0)

namespace PEImageInfo

variable (info : PEImageInfo)

def isIA64 : Bool := decide (info.machine = IMAGE_FILE_MACHINE_IA64)

def isEFI : Bool :=
  decide (IMAGE_SUBSYSTEM_EFI_APPLICATION ≤ info.subsystem ∧ info.subsystem ≤ IMAGE_SUBSYSTEM_EFI_RUNTIME_DRIVER)

def findSectionByName (name : List UInt8) : Option PESectionInfo :=
  info.sections.find? fun s => decide (s.name = name)

end PEImageInfo

/-- `.reloc` and `.rela`, `.dynsym`. -/
def relocName : List UInt8 := [0x2E, 0x72, 0x65, 0x6C, 0x6F, 0x63]
def relaName : List UInt8 := [0x2E, 0x72, 0x65, 0x6C, 0x61]
def dynsymName : List UInt8 := [0x2E, 0x64, 0x79, 0x6E, 0x73, 0x79, 0x6D]

/-! ## `parse` -/

section Parse
variable (file : List UInt8)

/-- `parseDOSHeader`: the offset of the PE header. -/
def parseDOSHeader : Parser UInt32 :=
  if file.length < dosHeaderSize then reject
  else do
    let header ← fetch file 0 dosHeaderSize
    let e_lfanew := (wordAt header 60 4).toUInt32
    if wordAt header 0 2 ≠ 0x5A4D then reject
    else if e_lfanew = 0 ∨ e_lfanew.toNat ≥ file.length then reject
    else return e_lfanew

def parsePEHeader (e_lfanew : UInt32) : Parser Unit :=
  if e_lfanew.toNat + peHeaderSize > file.length then reject
  else do
    let header ← fetch file e_lfanew.toNat peHeaderSize
    if wordOfBytes header ≠ 0x00004550 then reject else return ()

def parseCOFFHeader (e_lfanew : UInt32) : Parser COFFHeader :=
  let coffOffset := e_lfanew + UInt32.ofNat peHeaderSize
  if coffOffset.toNat + coffHeaderSize > file.length then reject
  else do
    let header ← fetch file coffOffset.toNat coffHeaderSize
    return ⟨(wordAt header 0 2).toUInt16, (wordAt header 2 2).toUInt16, (wordAt header 16 2).toUInt16⟩

/-- The directory of the base relocations, if the header and the file have it. -/
def parseRelocationDirectory (optOffset : UInt32) (coff : COFFHeader) (numberOfRvaAndSizes : UInt32) (info : PEImageInfo) :
    Parser PEImageInfo :=
  let dataDirectoryOffset := optOffset.toNat + optionalHeaderSize
  let directoryBytes := (baseRelocationDirectoryIndex + 1) * dataDirectorySize
  if numberOfRvaAndSizes.toNat > baseRelocationDirectoryIndex ∧
      coff.sizeOfOptionalHeader.toNat ≥ optionalHeaderSize + directoryBytes ∧
      dataDirectoryOffset + directoryBytes ≤ file.length then do
    let directory ← fetch file (dataDirectoryOffset + baseRelocationDirectoryIndex * dataDirectorySize) dataDirectorySize
    return { info with
      relocationDirectoryRva := (wordAt directory 0 4).toUInt32
      relocationDirectorySize := (wordAt directory 4 4).toUInt32 }
  else return info

def parseOptionalHeader (e_lfanew : UInt32) (coff : COFFHeader) : Parser PEImageInfo :=
  let optOffset := e_lfanew + UInt32.ofNat peHeaderSize + UInt32.ofNat coffHeaderSize
  if coff.sizeOfOptionalHeader = 0 then .ok { machine := coff.machine }
  else if optOffset.toNat + optionalHeaderSize > file.length then reject
  else do
    let header ← fetch file optOffset.toNat optionalHeaderSize
    if wordAt header 0 2 ≠ 0x20B ∧ wordAt header 0 2 ≠ 0x10B then reject
    else
      let imageBase := wordAt header 24 8
      parseRelocationDirectory file optOffset coff (wordAt header 108 4).toUInt32
        { machine := coff.machine
          subsystem := (wordAt header 68 2).toUInt16
          imageBase := imageBase
          entryPoint := imageBase + (wordAt header 16 4).toUInt32.toUInt64
          sizeOfImage := (wordAt header 56 4).toUInt32
          sizeOfHeaders := (wordAt header 60 4).toUInt32 }

theorem toUInt64_lt (x : UInt32) : x.toUInt64.toNat < 2 ^ 32 := by
  rw [UInt32.toNat_toUInt64]
  exact x.toNat_lt

def sectionOfHeader (header : List UInt8) : PESectionInfo where
  name := (header.take 8).takeWhile (· ≠ 0)
  virtualAddress := (wordAt header 12 4).toUInt32.toUInt64
  virtualSize := (wordAt header 8 4).toUInt32.toUInt64
  rawDataOffset := (wordAt header 20 4).toUInt32
  rawDataSize := (wordAt header 16 4).toUInt32
  characteristics := (wordAt header 36 4).toUInt32
  virtualAddress_lt := toUInt64_lt _
  virtualSize_lt := toUInt64_lt _

/-- The loop of `parseSections`. -/
def parseSections : Nat → UInt32 → Parser (List PESectionInfo)
  | 0, _ => .ok []
  | n + 1, sectionOffset =>
      if sectionOffset.toNat + sectionHeaderSize > file.length then reject
      else do
        let header ← fetch file sectionOffset.toNat sectionHeaderSize
        let sections ← parseSections n (sectionOffset + UInt32.ofNat sectionHeaderSize)
        return sectionOfHeader header :: sections

/-- **`parse`.** -/
def parse : Parser PEImageInfo :=
  if file.length < dosHeaderSize then reject
  else do
    let e_lfanew ← parseDOSHeader file
    parsePEHeader file e_lfanew
    let coff ← parseCOFFHeader file e_lfanew
    let info ← parseOptionalHeader file e_lfanew coff
    let sections ← parseSections file coff.numberOfSections.toNat
      (e_lfanew + UInt32.ofNat peHeaderSize + UInt32.ofNat coffHeaderSize + coff.sizeOfOptionalHeader.toUInt32)
    return { info with sections := sections }

end Parse

end GuideXOS.Storage.PE

/-!
## The relocations of a loaded image

`applyRelocations` runs over the blocks of `.reloc` if the image is not at its preferred base, and over the records of
`.rela` unless an IA-64 EFI image relocates itself. Both tables lie in the image that the relocations write.

* A counter of events is a natural number: each is bounded by the size of a table.
* The counts by type and the furthest offset are only logged.
-/

namespace GuideXOS.Storage.PE
open Lib Lib.Words Lib.Bounds

def IMAGE_REL_BASED_ABSOLUTE : UInt16 := 0
def IMAGE_REL_BASED_DIR64 : UInt16 := 10

def R_IA64_NONE : UInt32 := 0
def R_IA64_DIR64LSB : UInt32 := 0x27
def R_IA64_FPTR64LSB : UInt32 := 0x47
def R_IA64_PCREL64LSB : UInt32 := 0x4F
def R_IA64_SEGREL64LSB : UInt32 := 0x5F
def R_IA64_REL64LSB : UInt32 := 0x6F

def blockHeaderSize : Nat := 8
def relaEntrySize : Nat := 24
def dynSymEntrySize : Nat := 24

/-- The image under relocation, the counters of the image information, and `relocationCount` of the loop that runs. -/
structure Relocating where
  imageBuffer : List UInt8
  relocationBlocksProcessed : Nat := 0
  relocationsApplied : Nat := 0
  relocationErrors : Nat := 0
  relocationTypesEncountered : List UInt32 := []
  relocationCount : Nat := 0
  deriving DecidableEq

namespace Relocating

variable (st : Relocating)

def encounter (type : UInt32) : Relocating :=
  if type ∈ st.relocationTypesEncountered then st
  else { st with relocationTypesEncountered := st.relocationTypesEncountered ++ [type] }

def error : Relocating := { st with relocationErrors := st.relocationErrors + 1 }

def applied (imageBuffer : List UInt8) : Relocating :=
  { st with
    imageBuffer := imageBuffer
    relocationsApplied := st.relocationsApplied + 1
    relocationCount := st.relocationCount + 1 }

@[simp] theorem imageBuffer_encounter (type : UInt32) : (st.encounter type).imageBuffer = st.imageBuffer := by
  unfold encounter
  split <;> rfl

theorem relocationCount_encounter (type : UInt32) : (st.encounter type).relocationCount = st.relocationCount := by
  unfold encounter
  split <;> rfl

theorem relocationErrors_encounter (type : UInt32) : (st.encounter type).relocationErrors = st.relocationErrors := by
  unfold encounter
  split <;> rfl

@[simp] theorem imageBuffer_applied (imageBuffer : List UInt8) :
    (st.applied imageBuffer).imageBuffer = imageBuffer := rfl

end Relocating

/-! ## `.reloc` -/

/-- The address that an entry names in the page of its block, added up in 32 bits. -/
def entryTarget (page : UInt32) (entry : UInt16) : Nat := (page + (entry &&& 0x0FFF).toUInt32).toNat

/-- The body of the loop over the entries of a block. -/
def relocateEntry (page : UInt32) (delta : UInt64) (entry : UInt16) (st : Relocating) : Parser Relocating :=
  let type := entry >>> 12
  let st := st.encounter type.toUInt32
  if type = IMAGE_REL_BASED_ABSOLUTE then .ok st
  else
    let targetRVA := entryTarget page entry
    if targetRVA + 8 > st.imageBuffer.length then .ok st.error
    else if type = IMAGE_REL_BASED_DIR64 then do
      let originalValue := wordOfBytes (← fetch st.imageBuffer targetRVA 8)
      return st.applied (← store st.imageBuffer targetRVA (bytesOfWord 8 (originalValue + delta)))
    else .ok st.error

/-- The loop over the entries of a block. -/
def relocateEntries (page : UInt32) (delta : UInt64) : Nat → Nat → Relocating → Parser Relocating
  | 0, _, st => .ok st
  | n + 1, entryOffset, st =>
      if entryOffset + 2 > st.imageBuffer.length then .ok st
      else do
        let entry := (wordOfBytes (← fetch st.imageBuffer entryOffset 2)).toUInt16
        let st ← relocateEntry page delta entry st
        relocateEntries page delta n (entryOffset + 2) st

/-- The loop over the blocks, which each take up at least one byte of what is left of the table. -/
def relocateBlocks (delta : UInt64) (endOffset : Nat) : Nat → Nat → Relocating → Parser Relocating
  | 0, _, st => .ok st
  | left + 1, offset, st =>
      if offset < endOffset ∧ offset + blockHeaderSize ≤ st.imageBuffer.length then do
        let block ← fetch st.imageBuffer offset blockHeaderSize
        let sizeOfBlock := (wordAt block 4 4).toNat
        if sizeOfBlock = 0 then return st
        else if sizeOfBlock < blockHeaderSize ∨ sizeOfBlock > endOffset - offset ∨
            sizeOfBlock > st.imageBuffer.length - offset then return st.error
        else
          let st := { st with relocationBlocksProcessed := st.relocationBlocksProcessed + 1 }
          let st ← relocateEntries (wordAt block 0 4).toUInt32 delta ((sizeOfBlock - blockHeaderSize) / 2)
            (offset + blockHeaderSize) st
          relocateBlocks delta endOffset left (offset + sizeOfBlock) st
      else .ok st

/-- **`applyPEBaseRelocations`.** -/
def applyPEBaseRelocations (relocSection : PESectionInfo) (delta : UInt64) (st : Relocating) :
    Parser (Bool × Relocating) :=
  if relocSection.virtualSize = 0 then .ok (true, st)
  else do
    let start := relocSection.virtualAddress.toNat
    let st ← relocateBlocks delta (start + relocSection.virtualSize.toNat) relocSection.virtualSize.toNat start
      { st with relocationCount := 0 }
    return (decide (st.relocationCount > 0), st)

/-! ## `.rela` -/

structure ELFRelaEntry where
  offset : UInt64
  info : UInt64
  addend : UInt64

def ELFRelaEntry.ofBytes (record : List UInt8) : ELFRelaEntry :=
  ⟨wordAt record 0 8, wordAt record 8 8, wordAt record 16 8⟩

def ELFRelaEntry.type (rela : ELFRelaEntry) : UInt32 := rela.info.toUInt32

def ELFRelaEntry.symbol (rela : ELFRelaEntry) : UInt32 := (rela.info >>> 32).toUInt32

/-- A word written over another one. -/
def relocateWord (rela : ELFRelaEntry) (newValue : UInt64 → UInt64) (st : Relocating) : Parser Relocating :=
  if (rela.offset + 8).toNat ≤ st.imageBuffer.length then do
    let originalValue := wordOfBytes (← fetch st.imageBuffer rela.offset.toNat 8)
    return st.applied (← store st.imageBuffer rela.offset.toNat (bytesOfWord 8 (newValue originalValue)))
  else .ok st.error

/-- The vector grown to `n` bytes, if it has fewer. -/
def resize (bytes : List UInt8) (n : Nat) : List UInt8 := bytes ++ List.replicate (n - bytes.length) 0

section Rela
variable (info : PEImageInfo) (loadAddress globalPointer : UInt64)

/-- A function descriptor appended behind the image, and the word that points to it. The descriptor goes to the address
    given, and the next one behind it. -/
def relocateDescriptor (rela : ELFRelaEntry) (functionDescriptorRVA : UInt64) (st : Relocating) :
    Parser (UInt64 × Relocating) :=
  match info.findSectionByName dynsymName with
  | none => .ok (functionDescriptorRVA, st.error)
  | some dynsym =>
      if (rela.offset + 8).toNat ≤ st.imageBuffer.length ∧
          (dynsym.virtualAddress + dynsym.virtualSize).toNat ≤ st.imageBuffer.length ∧
          rela.symbol.toUInt64 < dynsym.virtualSize / UInt64.ofNat dynSymEntrySize then do
        let symOffset := dynsym.virtualAddress + rela.symbol.toUInt64 * UInt64.ofNat dynSymEntrySize
        let sym ← fetch st.imageBuffer symOffset.toNat dynSymEntrySize
        let _ ← fetch st.imageBuffer rela.offset.toNat 8
        let buffer := resize st.imageBuffer (functionDescriptorRVA + 16).toNat
        let functionAddress := loadAddress + wordAt sym 8 8 + rela.addend
        let buffer ← store buffer functionDescriptorRVA.toNat (bytesOfWord 8 functionAddress)
        let buffer ← store buffer (functionDescriptorRVA + 8).toNat (bytesOfWord 8 globalPointer)
        let buffer ← store buffer rela.offset.toNat (bytesOfWord 8 (loadAddress + functionDescriptorRVA))
        return (functionDescriptorRVA + 16, st.applied buffer)
      else .ok (functionDescriptorRVA, st.error)

/-- The body of the loop over the records. -/
def relocateRecord (rela : ELFRelaEntry) (functionDescriptorRVA : UInt64) (st : Relocating) :
    Parser (UInt64 × Relocating) :=
  let st := st.encounter rela.type
  if rela.type = R_IA64_NONE then .ok (functionDescriptorRVA, st)
  else if rela.offset.toNat ≥ st.imageBuffer.length then .ok (functionDescriptorRVA, st.error)
  else if rela.type = R_IA64_DIR64LSB then
    (relocateWord rela (fun _ => loadAddress + rela.addend) st).map (functionDescriptorRVA, ·)
  else if rela.type = R_IA64_REL64LSB then
    (relocateWord rela (fun originalValue => originalValue + loadAddress) st).map (functionDescriptorRVA, ·)
  else if rela.type = R_IA64_FPTR64LSB then relocateDescriptor info loadAddress globalPointer rela functionDescriptorRVA st
  else if rela.type = R_IA64_PCREL64LSB then
    (relocateWord rela (fun _ => loadAddress + rela.addend - rela.offset) st).map (functionDescriptorRVA, ·)
  else if rela.type = R_IA64_SEGREL64LSB then
    (relocateWord rela (fun _ => rela.addend) st).map (functionDescriptorRVA, ·)
  else .ok (functionDescriptorRVA, st.error)

/-- The loop over the records. -/
def relocateRecords : Nat → Nat → UInt64 → Relocating → Parser Relocating
  | 0, _, _, st => .ok st
  | n + 1, entryOffset, functionDescriptorRVA, st =>
      if entryOffset + relaEntrySize > st.imageBuffer.length then .ok st.error
      else do
        let record ← fetch st.imageBuffer entryOffset relaEntrySize
        let next ← relocateRecord info loadAddress globalPointer (.ofBytes record) functionDescriptorRVA st
        relocateRecords n (entryOffset + relaEntrySize) next.1 next.2

/-- Where the first function descriptor goes: behind all sections, rounded up. -/
def firstDescriptor : UInt64 :=
  (info.sections.foldl (fun high s => if high < s.memoryEnd then s.memoryEnd else high) 0 + 15) &&& ~~~0xF

/-- **`applyELFRelocations`.** -/
def applyELFRelocations (relaSection : PESectionInfo) (st : Relocating) : Parser (Bool × Relocating) :=
  if relaSection.virtualSize = 0 then .ok (true, st)
  else do
    let st ← relocateRecords info loadAddress globalPointer (relaSection.virtualSize.toNat / relaEntrySize)
      relaSection.virtualAddress.toNat (firstDescriptor info) { st with relocationCount := 0 }
    return (decide (st.relocationCount > 0), st)

/-! ## Both -/

/-- `isIA64() && isEFI() && hasElfRelocations`. -/
def guestOwnsIa64Relocations : Bool :=
  info.isIA64 && info.isEFI && (info.findSectionByName relaName).isSome

/-- The first step: the base relocations, if the image is not at its preferred base. It gives whether it succeeded and
    whether there was a table. -/
def baseStep (st : Relocating) : Parser (Bool × Bool × Relocating) :=
  let delta := loadAddress - info.imageBase
  match info.findSectionByName relocName with
  | some relocSection =>
      if delta = 0 then .ok (true, false, st)
      else (applyPEBaseRelocations relocSection delta st).map fun r => (r.1, true, r.2)
  | none => .ok (true, false, st)

/-- The second step: the records of `.rela`, unless the guest owns them. -/
def recordStep (st : Relocating) : Parser (Bool × Bool × Relocating) :=
  match info.findSectionByName relaName with
  | some relaSection =>
      if guestOwnsIa64Relocations info then .ok (true, false, st)
      else (applyELFRelocations info loadAddress globalPointer relaSection st).map fun r => (r.1, true, r.2)
  | none => .ok (true, false, st)

/-- **`applyRelocations`.** -/
def applyRelocations (imageBuffer : List UInt8) : Parser (Bool × Relocating) := do
  let base ← baseStep info loadAddress { imageBuffer := imageBuffer }
  let record ← recordStep info loadAddress globalPointer base.2.2
  let relocationSourceFound := base.2.1 || record.2.1
  let st := if loadAddress - info.imageBase ≠ 0 ∧ relocationSourceFound = false then record.2.2.error else record.2.2
  return (base.1 && record.1 && decide (loadAddress - info.imageBase = 0 ∨ relocationSourceFound = true) &&
    decide (st.relocationErrors = 0), st)

end Rela

/-- What `loadImage` leaves: the buffer, its outputs, and the members that it sets. -/
structure LoadedImage where
  imageBuffer : List UInt8
  loadAddress : UInt64
  entryPoint : UInt64
  /-- The global pointer of the entry descriptor, if there is one. -/
  globalPointer : Option UInt64
  relocated : Bool
  relocating : Relocating

/-- The raw data of a section passes the check against the size of the file, whose sum has 32 bits. -/
def PESectionInfo.rawDataPasses (s : PESectionInfo) (file : List UInt8) : Prop :=
  (s.rawDataOffset + s.rawDataSize).toNat ≤ file.length

/-- A section passes the check against the size of the image. -/
def PESectionInfo.memoryPasses (s : PESectionInfo) (sizeOfImage : UInt32) : Prop := s.memoryEnd ≤ sizeOfImage.toUInt64

instance (s : PESectionInfo) (file : List UInt8) : Decidable (s.rawDataPasses file) := inferInstanceAs (Decidable (_ ≤ _))

instance (s : PESectionInfo) (sizeOfImage : UInt32) : Decidable (s.memoryPasses sizeOfImage) :=
  inferInstanceAs (Decidable (_ ≤ _))

section Load
variable (file : List UInt8)

/-- The loop that maps the sections. -/
def mapSections (sizeOfImage : UInt32) : List PESectionInfo → List UInt8 → Parser (List UInt8)
  | [], imageBuffer => .ok imageBuffer
  | s :: sections, imageBuffer =>
      if s.rawDataSize = 0 then mapSections sizeOfImage sections imageBuffer
      else if ¬ s.rawDataPasses file then reject
      else if ¬ s.memoryPasses sizeOfImage then reject
      else do
        let data ← fetch file s.rawDataOffset.toNat s.rawDataSize.toNat
        let imageBuffer ← store imageBuffer s.virtualAddress.toNat data
        mapSections sizeOfImage sections imageBuffer

/-- The headers and the sections, in a buffer of the size of the image. -/
def mapImage (info : PEImageInfo) : Parser (List UInt8) :=
  if info.sizeOfHeaders.toNat > file.length then reject
  else do
    let headers ← fetch file 0 info.sizeOfHeaders.toNat
    let imageBuffer ← store (List.replicate info.sizeOfImage.toNat 0) 0 headers
    mapSections file info.sizeOfImage info.sections imageBuffer

end Load

/-- The entry descriptor at an address in a section that is not executable: where the code is, and the global pointer. -/
def entryDescriptor (info : PEImageInfo) (loadAddress : UInt64) (imageBuffer : List UInt8) (entryPointRVA : UInt64) :
    Parser (UInt64 × Option UInt64) :=
  if (entryPointRVA + 8).toNat ≤ imageBuffer.length then do
    let potentialRVA := wordOfBytes (← fetch imageBuffer entryPointRVA.toNat 8)
    if info.sections.any fun s => s.isExecutable && s.covers potentialRVA then
      if (entryPointRVA + 16).toNat ≤ imageBuffer.length then
        let descriptorGP := wordOfBytes (← fetch imageBuffer (entryPointRVA + 8).toNat 8)
        return (potentialRVA, some (loadAddress + descriptorGP))
      else return (potentialRVA, none)
    else return (entryPointRVA, none)
  else .ok (entryPointRVA, none)

/-- `dumpMemoryAtEntryPoint`, of which only the reads are left. -/
def dumpMemoryAtEntryPoint (imageBuffer : List UInt8) (entryPointRVA : UInt64) : Parser Unit :=
  if entryPointRVA.toNat ≥ imageBuffer.length then .ok ()
  else (fetch imageBuffer entryPointRVA.toNat (min 32 (imageBuffer.length - entryPointRVA.toNat))).map fun _ => ()

/-- The entry point in a section, or behind the descriptor in one. -/
def findEntry (info : PEImageInfo) (loadAddress : UInt64) (imageBuffer : List UInt8) : Parser (UInt64 × Option UInt64) :=
  let entryPointRVA := info.entryPoint - info.imageBase
  match info.sections.find? fun s => s.covers entryPointRVA with
  | none => reject
  | some s =>
      if s.isExecutable then .ok (entryPointRVA, none) else entryDescriptor info loadAddress imageBuffer entryPointRVA

/-- `loadImage` from the mapped image on. -/
def finishImage (info : PEImageInfo) (loadAddress : UInt64) (imageBuffer : List UInt8) : Parser LoadedImage := do
  let entry ← findEntry info loadAddress imageBuffer
  dumpMemoryAtEntryPoint imageBuffer entry.1
  let relocations ← applyRelocations info loadAddress (entry.2.getD loadAddress) imageBuffer
  return ⟨relocations.2.imageBuffer, loadAddress, loadAddress + entry.1, entry.2, relocations.1, relocations.2⟩

/-- **`loadImage`.** A requested address of zero asks for the preferred base. -/
def loadImage (file : List UInt8) (info : PEImageInfo) (requestedLoadAddress : UInt64) : Parser LoadedImage := do
  let imageBuffer ← mapImage file info
  let loadAddress := if requestedLoadAddress ≠ 0 then requestedLoadAddress else info.imageBase
  finishImage info loadAddress imageBuffer

/-- `parse` followed by `loadImage`. -/
def parseAndLoad (file : List UInt8) (requestedLoadAddress : UInt64) : Parser LoadedImage := do
  let info ← parse file
  loadImage file info requestedLoadAddress

end GuideXOS.Storage.PE
