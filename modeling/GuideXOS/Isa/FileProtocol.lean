import GuideXOS.Core.Text
import GuideXOS.Isa.Protocols

/-!
# `FileProtocol` — the file protocol over the boot volume

`Open` looks a file up on the FAT volume of the boot image, copies its contents into a handle, and gives the guest a
protocol table in a pool page; the address of the page is the handle. `Read` and the position calls work on the copy.

* The FAT parser is a parameter, a function of the image bytes.
* Stores go through the plain memory interface, which may throw. What a call did to the plugin before it threw stays.
-/

namespace GuideXOS.Isa
open Lib Lib.Words GuideXOS.Core

def EFI_STATUS_WRITE_PROTECTED : UInt64 := 0x8000000000000008

namespace EfiHandoffGlobals

variable (g : EfiHandoffGlobals)

def EFI_UNSUPPORTED_STUB_DESC_ADDR : UInt64 := g.EFI_HANDOFF_REGION_BASE + 0xF40
def EFI_SUCCESS_STUB_DESC_ADDR : UInt64 := g.EFI_HANDOFF_REGION_BASE + 0xFC0
def EFI_ROOT_FILE_PROTOCOL_ADDR : UInt64 := g.EFI_HANDOFF_REGION_BASE + 0x1040
def EFI_FILE_OPEN_STUB_DESC_ADDR : UInt64 := g.EFI_HANDOFF_REGION_BASE + 0x1440
def EFI_FILE_CLOSE_STUB_DESC_ADDR : UInt64 := g.EFI_HANDOFF_REGION_BASE + 0x14C0
def EFI_FILE_READ_STUB_DESC_ADDR : UInt64 := g.EFI_HANDOFF_REGION_BASE + 0x1540
def EFI_FILE_GET_POSITION_STUB_DESC_ADDR : UInt64 := g.EFI_HANDOFF_REGION_BASE + 0x15C0
def EFI_FILE_SET_POSITION_STUB_DESC_ADDR : UInt64 := g.EFI_HANDOFF_REGION_BASE + 0x1640
def EFI_FILE_GET_INFO_STUB_DESC_ADDR : UInt64 := g.EFI_HANDOFF_REGION_BASE + 0x16C0

end EfiHandoffGlobals

namespace EfiCounters

variable (c : EfiCounters)

def countFileOpen : EfiCounters := { c with efiFileOpenCalls := c.efiFileOpenCalls + 1 }

def countFileRead : EfiCounters := { c with efiFileReadCalls := c.efiFileReadCalls + 1 }

def countFileClose : EfiCounters := { c with efiFileCloseCalls := c.efiFileCloseCalls + 1 }

def countFileGetPosition : EfiCounters :=
  { c with efiFileGetPositionCalls := c.efiFileGetPositionCalls + 1 }

def countFileSetPosition : EfiCounters :=
  { c with efiFileSetPositionCalls := c.efiFileSetPositionCalls + 1 }

/-- The first `Open` that succeeds is remembered by its number. -/
def noteFileOpened : EfiCounters :=
  if c.efiFirstSuccessfulFileOpen = 0 then { c with efiFirstSuccessfulFileOpen := c.efiFileOpenCalls } else c

end EfiCounters

/-! ## Paths -/

/-- The leading separators, but for the last character of the path. -/
def dropSeparators : ByteString → ByteString
  | c :: d :: rest => if c = 0x2F then dropSeparators (d :: rest) else c :: d :: rest
  | path => path

/-- **`normalizeEfiPath`.** -/
def normalizeEfiPath (path : ByteString) : ByteString :=
  dropSeparators (path.map fun c => if c = 0x5C then 0x2F else c)

/-- **`joinEfiPath`.** -/
def joinEfiPath (parent child : ByteString) : ByteString :=
  let normalizedChild := normalizeEfiPath child
  if normalizedChild = [] ∨ normalizedChild = text "." then normalizeEfiPath parent
  else if normalizedChild = text "/" then []
  else
    let normalizedParent := normalizeEfiPath parent
    if normalizedParent = [] then normalizedChild
    else if normalizedParent.getLast? = some 0x2F then normalizedParent ++ normalizedChild
    else normalizedParent ++ [0x2F] ++ normalizedChild

section Strings
variable {M : Type _} [IMemory M]

/-- The loop of `readUtf16AsciiString`, for at most this many characters. -/
def readUtf16Chars (memory : M) : Nat → UInt64 → ByteString → ByteString
  | 0, _, value => value
  | n + 1, address, value =>
      match IMemory.read memory address 2 with
      | .error _ => []
      | .ok bytes =>
          let ch := wordOfBytes bytes
          if ch = 0 then value
          else if ch < 0x20 ∨ ch > 0x7E then []
          else readUtf16Chars memory n (address + 2) (value ++ [ch.toUInt8])

/-- **`readUtf16AsciiString`.** A string that is not printable ASCII, or not readable, is empty. -/
def readUtf16AsciiString (memory : M) (address : UInt64) : ByteString :=
  if address = 0 then [] else readUtf16Chars memory 64 address []

end Strings

/-- **`makeEfiFileInfoBuffer`.** -/
def makeEfiFileInfoBuffer (name : ByteString) (fileSize : UInt64) (isDirectory : Bool) : List UInt8 :=
  let utf16Name := (name.map fun c => bytesOfWord 2 c.toUInt64).flatten ++ bytesOfWord 2 0
  let totalSize := 80 + UInt64.ofNat utf16Name.length
  bytesOfWord 8 totalSize ++ bytesOfWord 8 fileSize ++ bytesOfWord 8 fileSize ++ List.replicate 48 0 ++
    bytesOfWord 8 (if isDirectory then 0x10 else 0x1) ++ utf16Name

/-! ## The volume -/

/-- The FAT parser, as functions of the image that it was given. -/
structure FATParser where
  parse : List UInt8 → Bool
  findFile : List UInt8 → ByteString → Option FATFileInfo
  readFile : List UInt8 → FATFileInfo → Option (List UInt8)
  listDirectory : List UInt8 → ByteString → Option (List FATFileInfo)

/-- What `Open` found. -/
structure FileFound where
  isDirectory : Bool
  data : List UInt8
  entries : List FATFileInfo

/-- The lookup of `Open`: the root directory, a directory or a file. -/
def FATParser.lookup (fat : FATParser) (image : List UInt8) (path : ByteString) : Option FileFound :=
  if path = [] then (fat.listDirectory image (text "/")).map fun entries => ⟨true, [], entries⟩
  else
    (fat.findFile image path).bind fun info =>
      if info.isDirectory then (fat.listDirectory image path).map fun entries => ⟨true, [], entries⟩
      else (fat.readFile image info).map fun data => ⟨false, data, []⟩

section Services
variable {I M : Type} [IMemory M] (p : IA64ISAPlugin I)

def IA64ISAPlugin.setBoot (boot : EfiBootVolume) : IA64ISAPlugin I :=
  { p with services := { p.services with boot := boot } }

def IA64ISAPlugin.setFiles (files : OrdMap UInt64 EfiFileHandle) : IA64ISAPlugin I :=
  { p with services := { p.services with efiFileHandles := files } }

/-! ## Opening and closing -/

/-- **`installFileProtocolTable`**: the fields it writes. -/
def fileProtocolFields (g : EfiHandoffGlobals) (protocolAddress : UInt64) : List (Nat × UInt64 × UInt64) :=
  [(8, protocolAddress, 0x00010000),
    (8, protocolAddress + 0x08, g.EFI_FILE_OPEN_STUB_DESC_ADDR),
    (8, protocolAddress + 0x10, g.EFI_FILE_CLOSE_STUB_DESC_ADDR),
    (8, protocolAddress + 0x18, g.EFI_UNSUPPORTED_STUB_DESC_ADDR),
    (8, protocolAddress + 0x20, g.EFI_FILE_READ_STUB_DESC_ADDR),
    (8, protocolAddress + 0x28, g.EFI_UNSUPPORTED_STUB_DESC_ADDR),
    (8, protocolAddress + 0x30, g.EFI_FILE_GET_POSITION_STUB_DESC_ADDR),
    (8, protocolAddress + 0x38, g.EFI_FILE_SET_POSITION_STUB_DESC_ADDR),
    (8, protocolAddress + 0x40, g.EFI_FILE_GET_INFO_STUB_DESC_ADDR),
    (8, protocolAddress + 0x48, g.EFI_UNSUPPORTED_STUB_DESC_ADDR),
    (8, protocolAddress + 0x50, g.EFI_SUCCESS_STUB_DESC_ADDR)]

/-- A doubleword is stored and the call returns. -/
def storeAndReturn (memory : M) (address value status : UInt64) : Except String (UInt64 × M) :=
  (IMemory.write memory address (bytesOfWord 8 value)).map fun memory => (status, memory)

/-- **`handleEfiFileOpen`.** The handle is registered last, after the table and its address are stored. -/
def handleEfiFileOpen (g : EfiHandoffGlobals) (fat : FATParser) (p : IA64ISAPlugin I) (memory : M) :
    IA64ISAPlugin I × Except String (UInt64 × M) :=
  let p := p.setCounters p.counters.countFileOpen
  let thisProtocol := readCallerOutputRegister p.cpu 0
  let newHandleOut := readCallerOutputRegister p.cpu 1
  let fileNameAddress := readCallerOutputRegister p.cpu 2
  let openMode := readCallerOutputRegister p.cpu 3
  let fileName := readUtf16AsciiString memory fileNameAddress
  if newHandleOut = 0 ∨ openMode &&& ~~~1 ≠ 0 then
    (p, .ok (if openMode &&& ~~~1 ≠ 0 then EFI_STATUS_WRITE_PROTECTED else EFI_STATUS_INVALID_PARAMETER, memory))
  else
    let (ready, boot) := ensureEfiBootFat fat.parse g memory p.services.boot
    let p := p.setBoot boot
    if !ready then (p, storeAndReturn memory newHandleOut 0 EFI_STATUS_NO_MEDIA)
    else
      let parentPath := ((p.services.efiFileHandles.find? thisProtocol).map (·.path)).getD []
      let path := joinEfiPath parentPath fileName
      match fat.lookup (boot.efiBootFat.getD []) path with
      | none => (p, storeAndReturn memory newHandleOut 0 EFI_STATUS_NOT_FOUND)
      | some found =>
          let (handleAddress, p, memory) := allocateEfiPool g p memory 0x60 EFI_MEMORY_BOOT_SERVICES_DATA 0
          if handleAddress = 0 then (p, .ok (EFI_STATUS_INVALID_PARAMETER, memory))
          else
            match writeGuestFields memory (fileProtocolFields g handleAddress ++ [(8, newHandleOut, handleAddress)]) with
            | (false, _) => (p, .error "guest memory access")
            | (true, memory) =>
                let handle : EfiFileHandle :=
                  { protocolAddress := handleAddress, path, isDirectory := found.isDirectory, data := found.data
                    directoryEntries := found.entries }
                let p := p.setFiles (p.services.efiFileHandles.insert handleAddress handle)
                (p.setCounters p.counters.noteFileOpened, .ok (EFI_STATUS_SUCCESS, memory))

/-- **`handleEfiFileClose`.** The handle is forgotten, unless it is the root. -/
def handleEfiFileClose (g : EfiHandoffGlobals) (p : IA64ISAPlugin I) (memory : M) : UInt64 × IA64ISAPlugin I × M :=
  let p := p.setCounters p.counters.countFileClose
  let thisProtocol := readCallerOutputRegister p.cpu 0
  (EFI_STATUS_SUCCESS,
    if thisProtocol ≠ g.EFI_ROOT_FILE_PROTOCOL_ADDR then p.setFiles (p.services.efiFileHandles.erase thisProtocol) else p,
    memory)

/-! ## Reading -/

def IA64ISAPlugin.countFileBytes (bytes : UInt64) : IA64ISAPlugin I :=
  { p with trace := { p.trace with efiTotalFileBytesRead := p.trace.efiTotalFileBytesRead + bytes } }

/-- `handleEfiFileRead` on a directory: the next entry. -/
def readDirectory (memory : M) (thisProtocol bufferSizeAddress bufferAddress requested : UInt64)
    (handle : EfiFileHandle) : IA64ISAPlugin I × Except String (UInt64 × M) :=
  match handle.directoryEntries[handle.directoryIndex.toNat]? with
  | none => (p, storeAndReturn memory bufferSizeAddress 0 EFI_STATUS_SUCCESS)
  | some entry =>
      let info := makeEfiFileInfoBuffer entry.name entry.size.toUInt64 entry.isDirectory
      let size := UInt64.ofNat info.length
      if requested < size ∨ bufferAddress = 0 then
        (p, storeAndReturn memory bufferSizeAddress size EFI_STATUS_BUFFER_TOO_SMALL)
      else
        match IMemory.write memory bufferAddress info with
        | .error e => (p, .error e)
        | .ok memory =>
            match IMemory.write memory bufferSizeAddress (bytesOfWord 8 size) with
            | .error e => (p, .error e)
            | .ok memory =>
                (p.setFiles (p.services.efiFileHandles.insert thisProtocol
                  { handle with directoryIndex := handle.directoryIndex + 1 }), .ok (EFI_STATUS_SUCCESS, memory))

/-- **`handleEfiFileRead`.** The count is stored after the position has moved. -/
def handleEfiFileRead (memory : M) : IA64ISAPlugin I × Except String (UInt64 × M) :=
  let p := p.setCounters p.counters.countFileRead
  let thisProtocol := readCallerOutputRegister p.cpu 0
  let bufferSizeAddress := readCallerOutputRegister p.cpu 1
  let bufferAddress := readCallerOutputRegister p.cpu 2
  if bufferSizeAddress = 0 then (p, .ok (EFI_STATUS_INVALID_PARAMETER, memory))
  else
    match IMemory.read memory bufferSizeAddress 8 with
    | .error e => (p, .error e)
    | .ok bytes =>
        let requested := wordOfBytes bytes
        match p.services.efiFileHandles.find? thisProtocol with
        | none => (p, .ok (EFI_STATUS_INVALID_PARAMETER, memory))
        | some handle =>
            if handle.isDirectory then
              readDirectory p memory thisProtocol bufferSizeAddress bufferAddress requested handle
            else
              let size := UInt64.ofNat handle.data.length
              let remaining := if handle.position < size then size - handle.position else 0
              let actual := min requested remaining
              if actual > 0 ∧ bufferAddress ≠ 0 then
                match IMemory.write memory bufferAddress
                    ((handle.data.drop handle.position.toNat).take actual.toNat) with
                | .error e => (p, .error e)
                | .ok memory =>
                    let handle := { handle with position := handle.position + actual }
                    ((p.setFiles (p.services.efiFileHandles.insert thisProtocol handle)).countFileBytes actual,
                      storeAndReturn memory bufferSizeAddress actual EFI_STATUS_SUCCESS)
              else (p, storeAndReturn memory bufferSizeAddress actual EFI_STATUS_SUCCESS)

/-- **`handleEfiFileGetPosition`.** -/
def handleEfiFileGetPosition (memory : M) : IA64ISAPlugin I × Except String (UInt64 × M) :=
  let p := p.setCounters p.counters.countFileGetPosition
  let thisProtocol := readCallerOutputRegister p.cpu 0
  let positionOut := readCallerOutputRegister p.cpu 1
  match p.services.efiFileHandles.find? thisProtocol with
  | none => (p, .ok (EFI_STATUS_INVALID_PARAMETER, memory))
  | some handle =>
      if positionOut = 0 then (p, .ok (EFI_STATUS_INVALID_PARAMETER, memory))
      else (p, storeAndReturn memory positionOut handle.position EFI_STATUS_SUCCESS)

/-- **`handleEfiFileSetPosition`.** All ones means the end of the file. -/
def handleEfiFileSetPosition (memory : M) : IA64ISAPlugin I × Except String (UInt64 × M) :=
  let p := p.setCounters p.counters.countFileSetPosition
  let thisProtocol := readCallerOutputRegister p.cpu 0
  let position := readCallerOutputRegister p.cpu 1
  match p.services.efiFileHandles.find? thisProtocol with
  | none => (p, .ok (EFI_STATUS_INVALID_PARAMETER, memory))
  | some handle =>
      let size := UInt64.ofNat handle.data.length
      let position := if position = 0xFFFFFFFFFFFFFFFF then size else min position size
      (p.setFiles (p.services.efiFileHandles.insert thisProtocol { handle with position }),
        .ok (EFI_STATUS_SUCCESS, memory))

end Services

end GuideXOS.Isa
