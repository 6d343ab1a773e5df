import GuideXOS.Lib.Registry
import GuideXOS.Isa.EfiMapKey
import GuideXOS.Isa.Isolation

/-!
# `Protocols` — the firmware's protocol services

A handle carries protocols: `EfiProtocolAttachment` says which interface a handle has under which GUID.
`InstallProtocolInterface` and `LoadImage` attach, `HandleProtocol`, `LocateHandle` and `LocateProtocol` look
up. The lookups know the firmware's own four protocols besides: `HandleProtocol` has the simple file system
for every handle, and three call sites of the boot loader that pass a zero GUID are told apart by address.

* A service finds its arguments in the caller's output registers and returns the status for `GR8`.
* Where guest memory refuses a write through the plain interface, the exception leaves the service.
-/

namespace GuideXOS.Isa
open Lib Lib.Words Lib.Registry GuideXOS.Core

abbrev EfiGuid := Vector UInt8 16

def isZeroEfiGuid (guid : EfiGuid) : Bool := guid.toList.all (· == 0)

def EFI_LOCATE_SEARCH_ALL_HANDLES : UInt64 := 0
def EFI_LOCATE_SEARCH_BY_REGISTER_NOTIFY : UInt64 := 1
def EFI_LOCATE_SEARCH_BY_PROTOCOL : UInt64 := 2

namespace EfiCounters

def countLocateHandle (c : EfiCounters) : EfiCounters :=
  { c with efiLocateHandleCalls := c.efiLocateHandleCalls + 1 }

def countLocateProtocol (c : EfiCounters) : EfiCounters :=
  { c with efiLocateProtocolCalls := c.efiLocateProtocolCalls + 1 }

/-- What `HandleProtocol` counts: the calls, those with a zero GUID, those that give the simple file system. -/
def countHandleProtocol (zeroGuid simpleFs : Bool) (c : EfiCounters) : EfiCounters :=
  { c with
    efiHandleProtocolCalls := c.efiHandleProtocolCalls + 1
    efiZeroGuidProtocolCalls := c.efiZeroGuidProtocolCalls + if zeroGuid then 1 else 0
    efiSimpleFsProtocolReturns := c.efiSimpleFsProtocolReturns + if simpleFs then 1 else 0 }

end EfiCounters

/-! ## Attaching -/

/-- The pair under which an interface is attached. -/
def EfiProtocolAttachment.key (a : EfiProtocolAttachment) : UInt64 × EfiGuid := (a.handle, a.protocol)

/-- The lambda `handleExists`. -/
def handleExists (attachments : List EfiProtocolAttachment) (handle : UInt64) : Bool :=
  attachments.any (·.handle = handle)

/-- The lambda `duplicateProtocol`. -/
def duplicateProtocol (attachments : List EfiProtocolAttachment) (handle : UInt64) (guid : EfiGuid) : Bool :=
  attachments.any fun a => a.handle = handle ∧ a.protocol = guid

/-- The loop of `InstallProtocolInterface`, with `left` handles above `handle`: the handle it stops at, and
    whether that one is free. -/
def findSyntheticHandle (attachments : List EfiProtocolAttachment) : Nat → UInt64 → Bool × UInt64
  | 0, handle =>
      (!(handle == EFI_IMAGE_HANDLE || handle == EFI_IMAGE_DEVICE_HANDLE || handle == EFI_CONSOLE_INPUT_HANDLE ||
        handleExists attachments handle), handle)
  | left + 1, handle =>
      if handle = EFI_IMAGE_HANDLE ∨ handle = EFI_IMAGE_DEVICE_HANDLE ∨ handle = EFI_CONSOLE_INPUT_HANDLE ∨
          handleExists attachments handle then
        findSyntheticHandle attachments left (handle + 1)
      else (true, handle)

/-- A plugin with other attachments. -/
def IA64ISAPlugin.setAttachments {I : Type _} (p : IA64ISAPlugin I) (attachments : List EfiProtocolAttachment) :
    IA64ISAPlugin I :=
  { p with services := { p.services with efiProtocolAttachments := attachments } }

def IA64ISAPlugin.setNextSyntheticHandle {I : Type _} (p : IA64ISAPlugin I) (handle : UInt64) : IA64ISAPlugin I :=
  { p with services := { p.services with efiNextSyntheticHandle := handle } }

section Services
variable {I M : Type} [IMemory M] (g : EfiHandoffGlobals) (p : IA64ISAPlugin I) (memory : M)

def readEfiGuid (address : UInt64) : Option EfiGuid :=
  if address = 0 then none
  else (IMemory.read memory address 16).toOption.map fun bytes => Vector.ofFn fun i => bytes.getD i 0

/-- The end of `InstallProtocolInterface`: the attachment is made, and taken back where guest memory refuses
    the handle. -/
def attachProtocol (handlePointer : UInt64) (a : EfiProtocolAttachment) : UInt64 × IA64ISAPlugin I × M :=
  let attached := p.setAttachments (p.services.efiProtocolAttachments ++ [a])
  match writeGuestU64 memory handlePointer a.handle with
  | none =>
      (EFI_STATUS_INVALID_PARAMETER, attached.setAttachments attached.services.efiProtocolAttachments.dropLast,
        memory)
  | some memory => (EFI_STATUS_SUCCESS, attached, memory)

/-- **`handleEfiInstallProtocolInterface`.** -/
def handleEfiInstallProtocolInterface : UInt64 × IA64ISAPlugin I × M :=
  let handlePointer := readCallerOutputRegister p.cpu 0
  let protocolPointer := readCallerOutputRegister p.cpu 1
  let interfaceType := readCallerOutputRegister p.cpu 2
  let interfacePointer := readCallerOutputRegister p.cpu 3
  let attachments := p.services.efiProtocolAttachments
  if handlePointer = 0 ∨ protocolPointer = 0 ∨ interfaceType ≠ 0 then (EFI_STATUS_INVALID_PARAMETER, p, memory)
  else
    match readGuestU64 memory handlePointer, readEfiGuid memory protocolPointer with
    | some inputHandle, some protocolGuid =>
        if inputHandle = 0 then
          let next := p.services.efiNextSyntheticHandle
          match findSyntheticHandle attachments (UINT64_MAX - next).toNat next with
          | (false, handle) => (EFI_STATUS_OUT_OF_RESOURCES, p.setNextSyntheticHandle handle, memory)
          | (true, handle) =>
              attachProtocol (p.setNextSyntheticHandle (handle + 1)) memory handlePointer
                ⟨handle, protocolGuid, interfacePointer⟩
        else if !handleExists attachments inputHandle || duplicateProtocol attachments inputHandle protocolGuid then
          (EFI_STATUS_INVALID_PARAMETER, p, memory)
        else attachProtocol p memory handlePointer ⟨inputHandle, protocolGuid, interfacePointer⟩
    | _, _ => (EFI_STATUS_INVALID_PARAMETER, p, memory)

/-! ## `LoadImage` -/

def EFI_STATUS_NO_MEDIA : UInt64 := 0x800000000000000C

/-- The errors that `LoadImage` returns before it allocates. -/
inductive LoadImageError where
  | invalidParameter
  | unsupported
  | outOfResources
  | noMedia
  | notFound

def LoadImageError.status : LoadImageError → UInt64
  | .invalidParameter => EFI_STATUS_INVALID_PARAMETER
  | .unsupported => EFI_STATUS_UNSUPPORTED
  | .outOfResources => EFI_STATUS_OUT_OF_RESOURCES
  | .noMedia => EFI_STATUS_NO_MEDIA
  | .notFound => EFI_STATUS_NOT_FOUND

/-! ## `LocateHandle` -/

/-- The handles in a row in the caller's buffer. -/
def handleFields (bufferAddress : UInt64) (handles : List UInt64) : List (Nat × UInt64 × UInt64) :=
  handles.zipIdx.map fun e => (8, bufferAddress + UInt64.ofNat e.2 * 8, e.1)

/-- The second half of `LocateHandle`: the matching handles go to the caller. -/
def returnHandles (matchingHandles : List UInt64) (bufferSizeAddress bufferAddress : UInt64) : UInt64 × M :=
  if matchingHandles.length = 0 then (EFI_STATUS_NOT_FOUND, memory)
  else if bufferSizeAddress = 0 then (EFI_STATUS_INVALID_PARAMETER, memory)
  else
    match readGuestU64 memory bufferSizeAddress with
    | none => (EFI_STATUS_INVALID_PARAMETER, memory)
    | some providedSize =>
        let requiredSize := UInt64.ofNat matchingHandles.length * 8
        match writeGuestU64 memory bufferSizeAddress requiredSize with
        | none => (EFI_STATUS_INVALID_PARAMETER, memory)
        | some memory =>
            if providedSize < requiredSize then (EFI_STATUS_BUFFER_TOO_SMALL, memory)
            else if bufferAddress = 0 then (EFI_STATUS_INVALID_PARAMETER, memory)
            else
              match writeGuestFields memory (handleFields bufferAddress matchingHandles) with
              | (false, memory) => (EFI_STATUS_INVALID_PARAMETER, memory)
              | (true, memory) => (EFI_STATUS_SUCCESS, memory)

/-- **`handleEfiLocateHandle`.** Nothing registers a notification, so a search by one finds no handle. -/
def handleEfiLocateHandle : UInt64 × IA64ISAPlugin I × M :=
  let p := p.setCounters p.counters.countLocateHandle
  let searchType := readCallerOutputRegister p.cpu 0
  let protocolGuidAddress := readCallerOutputRegister p.cpu 1
  let searchKey := readCallerOutputRegister p.cpu 2
  let bufferSizeAddress := readCallerOutputRegister p.cpu 3
  let bufferAddress := readCallerOutputRegister p.cpu 4
  let attachments := p.services.efiProtocolAttachments
  let answer (matchingHandles : List UInt64) : UInt64 × IA64ISAPlugin I × M :=
    let r := returnHandles memory matchingHandles bufferSizeAddress bufferAddress
    (r.1, p, r.2)
  if searchType = EFI_LOCATE_SEARCH_ALL_HANDLES then answer (owners (·.handle) attachments)
  else if searchType = EFI_LOCATE_SEARCH_BY_REGISTER_NOTIFY then
    if searchKey = 0 then (EFI_STATUS_INVALID_PARAMETER, p, memory) else answer []
  else if searchType = EFI_LOCATE_SEARCH_BY_PROTOCOL then
    if protocolGuidAddress = 0 then (EFI_STATUS_INVALID_PARAMETER, p, memory)
    else
      match readEfiGuid memory protocolGuidAddress with
      | none => (EFI_STATUS_INVALID_PARAMETER, p, memory)
      | some requestedGuid => answer ((attachments.filter (·.protocol = requestedGuid)).map (·.handle))
  else (EFI_STATUS_INVALID_PARAMETER, p, memory)

/-! ## `LocateProtocol` -/

/-- The interface `LocateProtocol` gives: that of the first attachment, else the firmware's own. -/
def locateProtocolAddress (attachments : List EfiProtocolAttachment) (guid : Option EfiGuid) : UInt64 :=
  match guid with
  | none => 0
  | some guid =>
      let protocolAddress := (attachments.find? (·.protocol = guid)).elim 0 (·.interfaceAddress)
      if protocolAddress ≠ 0 then protocolAddress
      else if guid = EFI_LOADED_IMAGE_PROTOCOL_GUID then g.EFI_LOADED_IMAGE_PROTOCOL_ADDR
      else if guid = EFI_SIMPLE_FILE_SYSTEM_PROTOCOL_GUID then g.EFI_SIMPLE_FILE_SYSTEM_PROTOCOL_ADDR
      else if guid = EFI_SIMPLE_TEXT_INPUT_PROTOCOL_GUID then g.EFI_SIMPLE_TEXT_INPUT_PROTOCOL_ADDR
      else if guid = EFI_SIMPLE_TEXT_INPUT_EX_PROTOCOL_GUID then g.EFI_SIMPLE_TEXT_INPUT_EX_PROTOCOL_ADDR
      else 0

/-- An interface found, or a null one. -/
def statusOfInterface (protocolAddress : UInt64) : UInt64 :=
  if protocolAddress ≠ 0 then EFI_STATUS_SUCCESS else EFI_STATUS_NOT_FOUND

/-- **`handleEfiLocateProtocol`.** -/
def handleEfiLocateProtocol : IA64ISAPlugin I × Except String (UInt64 × M) :=
  let p := p.setCounters p.counters.countLocateProtocol
  let protocolGuid := readCallerOutputRegister p.cpu 0
  let interfaceOut := readCallerOutputRegister p.cpu 2
  if interfaceOut = 0 then (p, .ok (EFI_STATUS_INVALID_PARAMETER, memory))
  else
    let protocolAddress :=
      locateProtocolAddress g p.services.efiProtocolAttachments (readEfiGuid memory protocolGuid)
    (p, (IMemory.write memory interfaceOut (bytesOfWord 8 protocolAddress)).map fun memory =>
      (statusOfInterface protocolAddress, memory))

/-! ## `HandleProtocol` -/

/-- The protocol meant by a zero GUID at a call site of the boot loader. -/
def zeroGuidProtocol (currentIP : UInt64) : Option EfiGuid :=
  if currentIP = 0x2EFD0 ∨ currentIP = 0x1A50 then some EFI_LOADED_IMAGE_PROTOCOL_GUID
  else if currentIP = 0x1CC0 then some EFI_SIMPLE_FILE_SYSTEM_PROTOCOL_GUID
  else none

/-- The GUID asked for. At those call sites a zero GUID is repaired in guest memory first; where that is
    refused, it stays zero. -/
def requestedGuid (currentIP protocolGuid : UInt64) : Option EfiGuid × M :=
  match readEfiGuid memory protocolGuid with
  | none => (none, memory)
  | some guid =>
      match if isZeroEfiGuid guid then zeroGuidProtocol currentIP else none with
      | none => (some guid, memory)
      | some expectedGuid =>
          match IMemory.write memory protocolGuid expectedGuid.toList with
          | .ok memory => (some expectedGuid, memory)
          | .error _ => (readEfiGuid memory protocolGuid, memory)

/-- The interface `HandleProtocol` gives. The fallback for a zero GUID is the only one that does not ask
    whether an attachment was found. -/
def handleProtocolAddress (attachments : List EfiProtocolAttachment) (handle currentIP : UInt64)
    (guid : Option EfiGuid) : UInt64 :=
  match guid with
  | none => 0
  | some guid =>
      let protocolAddress :=
        (attachments.find? fun a => a.handle = handle ∧ a.protocol = guid).elim 0 (·.interfaceAddress)
      if protocolAddress = 0 ∧ handle = EFI_IMAGE_HANDLE ∧ guid = EFI_LOADED_IMAGE_PROTOCOL_GUID then
        g.EFI_LOADED_IMAGE_PROTOCOL_ADDR
      else if protocolAddress = 0 ∧ guid = EFI_SIMPLE_FILE_SYSTEM_PROTOCOL_GUID then
        g.EFI_SIMPLE_FILE_SYSTEM_PROTOCOL_ADDR
      else if protocolAddress = 0 ∧ handle = EFI_CONSOLE_INPUT_HANDLE ∧
          guid = EFI_SIMPLE_TEXT_INPUT_PROTOCOL_GUID then
        g.EFI_SIMPLE_TEXT_INPUT_PROTOCOL_ADDR
      else if protocolAddress = 0 ∧ handle = EFI_CONSOLE_INPUT_HANDLE ∧
          guid = EFI_SIMPLE_TEXT_INPUT_EX_PROTOCOL_GUID then
        g.EFI_SIMPLE_TEXT_INPUT_EX_PROTOCOL_ADDR
      else if isZeroEfiGuid guid then
        if currentIP = 0x2EFD0 ∨ currentIP = 0x1A50 then g.EFI_LOADED_IMAGE_PROTOCOL_ADDR
        else if currentIP = 0x1CC0 then g.EFI_SIMPLE_FILE_SYSTEM_PROTOCOL_ADDR
        else protocolAddress
      else protocolAddress

/-- The interface goes to the caller. With the simple file system, the word after it is set to the loaded
    image, unless something else stands there. -/
def returnInterface (interfaceOut protocolAddress : UInt64) : Except String M :=
  if interfaceOut = 0 then .ok memory
  else
    match IMemory.write memory interfaceOut (bytesOfWord 8 protocolAddress) with
    | .error message => .error message
    | .ok memory =>
        if protocolAddress ≠ 0 ∧ protocolAddress = g.EFI_SIMPLE_FILE_SYSTEM_PROTOCOL_ADDR then
          let adjacentLoadedImage := (readGuestU64 memory (interfaceOut + 8)).getD 0
          if adjacentLoadedImage = 0 ∨ adjacentLoadedImage = g.EFI_LOADED_IMAGE_PROTOCOL_ADDR then
            IMemory.write memory (interfaceOut + 8) (bytesOfWord 8 g.EFI_LOADED_IMAGE_PROTOCOL_ADDR)
          else .ok memory
        else .ok memory

/-- After the simple file system was given out, the next instructions are traced. -/
def EfiTrace.traceSimpleFs (t : EfiTrace) : EfiTrace :=
  { t with
    postSimpleFsTraceBudget := 60
    postSimpleFsTraceActive := true
    postSimpleFsProtocolAddress := g.EFI_SIMPLE_FILE_SYSTEM_PROTOCOL_ADDR }

/-- The `BootServices.HandleProtocol` branch of the call dispatch. -/
def handleProtocolStub : IA64ISAPlugin I × Except String (UInt64 × M) :=
  let handle := readCallerOutputRegister p.cpu 0
  let protocolGuid := readCallerOutputRegister p.cpu 1
  let interfaceOut := readCallerOutputRegister p.cpu 2
  let (guid, memory) := requestedGuid memory p.cpu.ip protocolGuid
  let protocolAddress := handleProtocolAddress g p.services.efiProtocolAttachments handle p.cpu.ip guid
  let simpleFs := protocolAddress == g.EFI_SIMPLE_FILE_SYSTEM_PROTOCOL_ADDR
  let p := p.setCounters (p.counters.countHandleProtocol (guid.any isZeroEfiGuid) simpleFs)
  match returnInterface g memory interfaceOut protocolAddress with
  | .error message => (p, .error message)
  | .ok memory =>
      let p := if simpleFs ∧ protocolAddress ≠ 0 then { p with trace := p.trace.traceSimpleFs g } else p
      (p, .ok (statusOfInterface protocolAddress, memory))

end Services

end GuideXOS.Isa
