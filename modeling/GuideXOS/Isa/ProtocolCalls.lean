import GuideXOS.Isa.ProtocolDatabase

/-!
# `ProtocolCalls` — the protocol services over any sequence of calls

`Answered` says what a single call does: the attaching services attach or leave the database alone, the lookups
answer by the attachments. `protocols_run` says it of every call of every run, with what holds of the whole run:
no pair is attached twice, and no handle is handed out twice.

A lookup gives the attached interface. By design `HandleProtocol` also has the simple file system for the handles
that do not carry it (`handleProtocol_unattached`), and the protocol meant by a zero GUID at the call sites of the
boot loader.
-/

namespace GuideXOS.Isa
open Lib Lib.Words Lib.Runs Lib.Registry Lib.Fallible GuideXOS.Core

/-! ## Looking up -/

/-- What `LocateProtocol` gives: the interface of the first attachment, or null where there is none. -/
structure LocateProtocolAnswer (s : EfiServices) (guid : EfiGuid) (address : UInt64) : Prop where
  attached : ∀ a, s.efiProtocolAttachments.find? (·.protocol = guid) = some a → a.interfaceAddress ≠ 0 →
    address = a.interfaceAddress
  absent : (∀ a ∈ s.efiProtocolAttachments, a.protocol ≠ guid) → address = 0

/-- What `HandleProtocol` gives: the attached interface, or null where the handle does not carry the protocol.
    The simple file system is there for every handle. -/
structure HandleProtocolAnswer (g : EfiHandoffGlobals) (s : EfiServices) (handle : UInt64) (guid : EfiGuid)
    (address : UInt64) : Prop where
  attached : ∀ a ∈ s.efiProtocolAttachments, a.handle = handle → a.protocol = guid → a.interfaceAddress ≠ 0 →
    address = a.interfaceAddress
  absent : ¬ s.Carries handle guid →
    address = if guid = EFI_SIMPLE_FILE_SYSTEM_PROTOCOL_GUID then g.EFI_SIMPLE_FILE_SYSTEM_PROTOCOL_ADDR else 0

/-- The firmware's own interface for one of the two protocols that a zero GUID may mean. -/
def EfiHandoffGlobals.interfaceOf (g : EfiHandoffGlobals) (guid : EfiGuid) : UInt64 :=
  if guid = EFI_LOADED_IMAGE_PROTOCOL_GUID then g.EFI_LOADED_IMAGE_PROTOCOL_ADDR
  else g.EFI_SIMPLE_FILE_SYSTEM_PROTOCOL_ADDR

variable {s : EfiServices}

/-- The firmware's attachments stay, so its four protocols are carried by the handles that had them first. -/
theorem ProtocolsSound.carries_fixed (h : ProtocolsSound s) :
    s.Carries EFI_IMAGE_HANDLE EFI_LOADED_IMAGE_PROTOCOL_GUID ∧
      s.Carries EFI_IMAGE_DEVICE_HANDLE EFI_SIMPLE_FILE_SYSTEM_PROTOCOL_GUID ∧
      s.Carries EFI_CONSOLE_INPUT_HANDLE EFI_SIMPLE_TEXT_INPUT_PROTOCOL_GUID ∧
      s.Carries EFI_CONSOLE_INPUT_HANDLE EFI_SIMPLE_TEXT_INPUT_EX_PROTOCOL_GUID := by
  obtain ⟨g, hg⟩ := h.fixed
  have hcarries : ∀ a ∈ fixedAttachments g, s.Carries a.handle a.protocol :=
    fun a ha => ⟨a, hg.subset ha, rfl, rfl⟩
  simpa [fixedAttachments, EfiServices.resetEfiProtocolAttachments] using hcarries

theorem locateProtocolAddress_answer (hs : ProtocolsSound s) (g : EfiHandoffGlobals) (guid : EfiGuid) :
    LocateProtocolAnswer s guid (locateProtocolAddress g s.efiProtocolAttachments (some guid)) := by
  constructor
  · intro a hfind haddress
    simp [locateProtocolAddress, hfind, haddress]
  · intro hnone
    obtain ⟨⟨a₁, ha₁, -, hloaded⟩, ⟨a₂, ha₂, -, hsimpleFs⟩, ⟨a₃, ha₃, -, hinput⟩, ⟨a₄, ha₄, -, hinputEx⟩⟩ :=
      hs.carries_fixed
    have hfind : s.efiProtocolAttachments.find? (·.protocol = guid) = none :=
      List.find?_eq_none.mpr (by simpa using hnone)
    have h₁ : guid ≠ EFI_LOADED_IMAGE_PROTOCOL_GUID := fun h => hnone a₁ ha₁ (hloaded.trans h.symm)
    have h₂ : guid ≠ EFI_SIMPLE_FILE_SYSTEM_PROTOCOL_GUID := fun h => hnone a₂ ha₂ (hsimpleFs.trans h.symm)
    have h₃ : guid ≠ EFI_SIMPLE_TEXT_INPUT_PROTOCOL_GUID := fun h => hnone a₃ ha₃ (hinput.trans h.symm)
    have h₄ : guid ≠ EFI_SIMPLE_TEXT_INPUT_EX_PROTOCOL_GUID := fun h => hnone a₄ ha₄ (hinputEx.trans h.symm)
    simp [locateProtocolAddress, hfind, h₁, h₂, h₃, h₄]

/-- A GUID of the firmware is not the zero one. -/
theorem isZeroEfiGuid_eq_false {guid : EfiGuid} (h : isZeroEfiGuid guid = true) :
    guid ≠ EFI_LOADED_IMAGE_PROTOCOL_GUID ∧ guid ≠ EFI_SIMPLE_FILE_SYSTEM_PROTOCOL_GUID ∧
      guid ≠ EFI_SIMPLE_TEXT_INPUT_PROTOCOL_GUID ∧ guid ≠ EFI_SIMPLE_TEXT_INPUT_EX_PROTOCOL_GUID := by
  refine ⟨?_, ?_, ?_, ?_⟩ <;>
    (rintro rfl; exact absurd h (by decide))

theorem handleProtocolAddress_answer (hs : ProtocolsSound s) (g : EfiHandoffGlobals) (handle currentIP : UInt64)
    {guid : EfiGuid} (hsite : isZeroEfiGuid guid = true → zeroGuidProtocol currentIP = none) :
    HandleProtocolAnswer g s handle guid
      (handleProtocolAddress g s.efiProtocolAttachments handle currentIP (some guid)) := by
  have hzero : isZeroEfiGuid guid = true → ¬ (currentIP = 0x2EFD0 ∨ currentIP = 0x1A50) ∧ currentIP ≠ 0x1CC0 := by
    intro hguid
    have hnone := hsite hguid
    unfold zeroGuidProtocol at hnone
    split at hnone
    · cases hnone
    · next hloaded =>
      split at hnone
      · cases hnone
      · next hsimpleFs => exact ⟨hloaded, hsimpleFs⟩
  constructor
  · intro a ha hhandle hguid haddress
    have hfind : s.efiProtocolAttachments.find? (fun a => a.handle = handle ∧ a.protocol = guid) = some a := by
      refine hs.unique.find?_eq ?_ ha
      intro b _
      simp [EfiProtocolAttachment.key, hhandle, hguid]
    unfold handleProtocolAddress
    simp only [hfind, Option.elim_some, haddress, false_and, if_false]
    by_cases hguidzero : isZeroEfiGuid guid = true
    · rw [if_pos hguidzero, if_neg (hzero hguidzero).1, if_neg (hzero hguidzero).2]
    · rw [if_neg hguidzero]
  · intro hnone
    have hfind : s.efiProtocolAttachments.find? (fun a => a.handle = handle ∧ a.protocol = guid) = none := by
      refine List.find?_eq_none.mpr fun a ha hmatch => ?_
      simp only [decide_eq_true_eq] at hmatch
      exact hnone ⟨a, ha, hmatch⟩
    -- the handles of the firmware's other protocols are the ones that carry them
    obtain ⟨hloaded, -, hinput, hinputEx⟩ := hs.carries_fixed
    have h₁ : ¬ (handle = EFI_IMAGE_HANDLE ∧ guid = EFI_LOADED_IMAGE_PROTOCOL_GUID) :=
      fun ⟨hh, hg⟩ => hnone (hh ▸ hg ▸ hloaded)
    have h₃ : ¬ (handle = EFI_CONSOLE_INPUT_HANDLE ∧ guid = EFI_SIMPLE_TEXT_INPUT_PROTOCOL_GUID) :=
      fun ⟨hh, hg⟩ => hnone (hh ▸ hg ▸ hinput)
    have h₄ : ¬ (handle = EFI_CONSOLE_INPUT_HANDLE ∧ guid = EFI_SIMPLE_TEXT_INPUT_EX_PROTOCOL_GUID) :=
      fun ⟨hh, hg⟩ => hnone (hh ▸ hg ▸ hinputEx)
    unfold handleProtocolAddress
    simp only [hfind, Option.elim_none, true_and, if_neg h₁, if_neg h₃, if_neg h₄]
    by_cases hfs : guid = EFI_SIMPLE_FILE_SYSTEM_PROTOCOL_GUID
    · rw [if_pos hfs, if_pos hfs]
    rw [if_neg hfs, if_neg hfs]
    by_cases hguidzero : isZeroEfiGuid guid = true
    · rw [if_pos hguidzero, if_neg (hzero hguidzero).1, if_neg (hzero hguidzero).2]
    · rw [if_neg hguidzero]

/-- Where a zero GUID at a call site of the boot loader could not be repaired, the firmware's interface is given
    whatever is attached. -/
theorem handleProtocolAddress_site (g : EfiHandoffGlobals) (attachments : List EfiProtocolAttachment) (handle : UInt64)
    {currentIP : UInt64} {guid expected : EfiGuid} (hguid : isZeroEfiGuid guid = true)
    (hsite : zeroGuidProtocol currentIP = some expected) :
    handleProtocolAddress g attachments handle currentIP (some guid) = g.interfaceOf expected := by
  obtain ⟨h₁, h₂, h₃, h₄⟩ := isZeroEfiGuid_eq_false hguid
  unfold handleProtocolAddress
  simp only [h₁, h₂, h₃, h₄, and_false, if_false, if_pos hguid]
  unfold zeroGuidProtocol at hsite
  split at hsite
  · next hloaded =>
    obtain rfl := Option.some.inj hsite
    rw [if_pos hloaded, EfiHandoffGlobals.interfaceOf, if_pos rfl]
  · next hloaded =>
    split at hsite
    · next hsimpleFs =>
      obtain rfl := Option.some.inj hsite
      rw [if_neg hloaded, if_pos hsimpleFs, EfiHandoffGlobals.interfaceOf, if_neg (by decide)]
    · cases hsite

/-- The handles, each once. -/
structure Lists (handles : List UInt64) (wanted : UInt64 → Prop) : Prop where
  nodup : handles.Nodup
  mem : ∀ handle, handle ∈ handles ↔ wanted handle

theorem lists_attached (s : EfiServices) : Lists (owners (·.handle) s.efiProtocolAttachments) s.Attached :=
  ⟨nodup_owners, fun _ => mem_owners⟩

/-- Under one GUID no handle has two attachments. -/
theorem ProtocolsSound.lists_carriers (h : ProtocolsSound s) (guid : EfiGuid) :
    Lists ((s.efiProtocolAttachments.filter (·.protocol = guid)).map (·.handle)) (s.Carries · guid) := by
  constructor
  · have hkeys : ((s.efiProtocolAttachments.filter (·.protocol = guid)).map EfiProtocolAttachment.key).Nodup :=
      h.unique.sublist (List.filter_sublist.map _)
    have hpairs : (s.efiProtocolAttachments.filter (·.protocol = guid)).map EfiProtocolAttachment.key =
        ((s.efiProtocolAttachments.filter (·.protocol = guid)).map (·.handle)).map (·, guid) := by
      rw [List.map_map]
      refine List.map_congr_left fun a ha => ?_
      rw [EfiProtocolAttachment.key, of_decide_eq_true (List.mem_filter.mp ha).2, Function.comp_apply]
    rw [hpairs] at hkeys
    exact hkeys.of_map
  · intro handle
    simp only [List.mem_map, List.mem_filter, decide_eq_true_eq, EfiServices.Carries]
    refine exists_congr fun a => ?_
    rw [and_assoc, and_comm (a := a.protocol = guid)]

section Services
variable {I M : Type} [IMemory M] {p : IA64ISAPlugin I} {memory : M}

/-- The size that `LocateHandle` asks of the caller's buffer. -/
def handlesSize (handles : List UInt64) : UInt64 := UInt64.ofNat handles.length * 8

/-- What becomes of the handles that were found: they fill the buffer, or the buffer is too small and its size is
    corrected, or there are none, or a pointer of the caller is refused. -/
inductive HandlesReturned (memory : M) (handles : List UInt64) (bufferSizeAddress bufferAddress : UInt64) :
    UInt64 → M → Prop
  | notFound (hnone : handles = []) :
      HandlesReturned memory handles bufferSizeAddress bufferAddress EFI_STATUS_NOT_FOUND memory
  | sizeRefused (hsome : handles ≠ [])
      (hpointer : bufferSizeAddress = 0 ∨ readGuestU64 memory bufferSizeAddress = none ∨
        writeGuestU64 memory bufferSizeAddress (handlesSize handles) = none) :
      HandlesReturned memory handles bufferSizeAddress bufferAddress EFI_STATUS_INVALID_PARAMETER memory
  | tooSmall {providedSize : UInt64} {memory' : M} (hsome : handles ≠ []) (hpointer : bufferSizeAddress ≠ 0)
      (hread : readGuestU64 memory bufferSizeAddress = some providedSize) (hsmall : providedSize < handlesSize handles)
      (hsize : writeGuestU64 memory bufferSizeAddress (handlesSize handles) = some memory') :
      HandlesReturned memory handles bufferSizeAddress bufferAddress EFI_STATUS_BUFFER_TOO_SMALL memory'
  | filled {providedSize : UInt64} {memory₁ memory' : M} (hsome : handles ≠ []) (hpointer : bufferSizeAddress ≠ 0)
      (hbuffer : bufferAddress ≠ 0)
      (hread : readGuestU64 memory bufferSizeAddress = some providedSize) (hfits : handlesSize handles ≤ providedSize)
      (hsize : writeGuestU64 memory bufferSizeAddress (handlesSize handles) = some memory₁)
      (hwrite : writeGuestFields memory₁ (handleFields bufferAddress handles) = (true, memory')) :
      HandlesReturned memory handles bufferSizeAddress bufferAddress EFI_STATUS_SUCCESS memory'
  | bufferRefused {providedSize : UInt64} {memory₁ memory' : M} (hsome : handles ≠ [])
      (hpointer : bufferSizeAddress ≠ 0)
      (hread : readGuestU64 memory bufferSizeAddress = some providedSize) (hfits : handlesSize handles ≤ providedSize)
      (hsize : writeGuestU64 memory bufferSizeAddress (handlesSize handles) = some memory₁)
      (hwrite : bufferAddress = 0 ∨ writeGuestFields memory₁ (handleFields bufferAddress handles) = (false, memory')) :
      HandlesReturned memory handles bufferSizeAddress bufferAddress EFI_STATUS_INVALID_PARAMETER memory'

theorem returnHandles_returned (memory : M) (handles : List UInt64) (bufferSizeAddress bufferAddress : UInt64) :
    HandlesReturned memory handles bufferSizeAddress bufferAddress
      (returnHandles memory handles bufferSizeAddress bufferAddress).1
      (returnHandles memory handles bufferSizeAddress bufferAddress).2 := by
  unfold returnHandles
  split
  · next hnone => exact .notFound (List.length_eq_zero_iff.mp hnone)
  next hlength =>
  have hsome : handles ≠ [] := fun h => hlength (List.length_eq_zero_iff.mpr h)
  split
  · next hnull => exact .sizeRefused hsome (Or.inl hnull)
  next hpointer =>
  split
  · next hread => exact .sizeRefused hsome (Or.inr (Or.inl hread))
  next providedSize hread =>
  dsimp only
  split
  · next hsize => exact .sizeRefused hsome (Or.inr (Or.inr hsize))
  next memory₁ hsize =>
  split
  · next hsmall => exact .tooSmall hsome hpointer hread hsmall hsize
  next hfits =>
  have hfits' := UInt64.not_lt.mp hfits
  split
  · next hnull => exact .bufferRefused hsome hpointer hread hfits' hsize (Or.inl hnull)
  next hbuffer =>
  split
  · next memory₂ hfields => exact .bufferRefused hsome hpointer hread hfits' hsize (Or.inr hfields)
  · next memory₂ hfields => exact .filled hsome hpointer hbuffer hread hfits' hsize hfields

/-! ## Calls -/

inductive ProtocolService where
  | installProtocolInterface
  | loadImage (source : Except LoadImageError ParsedImage)
  | handleProtocol
  | locateHandle
  | locateProtocol

/-- A call of a protocol service, with the addresses, the processor and the guest memory it finds. -/
structure ProtocolCall (M : Type) where
  globals : EfiHandoffGlobals
  cpu : CPUState
  memory : M
  service : ProtocolService

namespace ProtocolCall

/-- An argument of the call. -/
def argument (call : ProtocolCall M) (index : Nat) : UInt64 := readCallerOutputRegister call.cpu index

/-- The plugin after the call, and the status with guest memory, or the exception that left the service. -/
def outcome (p : IA64ISAPlugin I) (call : ProtocolCall M) : IA64ISAPlugin I × Except String (UInt64 × M) :=
  let p := p.setCpu call.cpu
  match call.service with
  | .installProtocolInterface =>
      let r := handleEfiInstallProtocolInterface p call.memory
      (r.2.1, .ok (r.1, r.2.2))
  | .loadImage source =>
      let r := handleEfiLoadImage call.globals p call.memory (source.mapError LoadImageError.status)
      (r.2.1, .ok (r.1, r.2.2))
  | .handleProtocol => handleProtocolStub call.globals p call.memory
  | .locateHandle =>
      let r := handleEfiLocateHandle p call.memory
      (r.2.1, .ok (r.1, r.2.2))
  | .locateProtocol => handleEfiLocateProtocol call.globals p call.memory

def step (p : IA64ISAPlugin I) (call : ProtocolCall M) : IA64ISAPlugin I := (outcome p call).1

/-- The call returns. Only `LoadImage` may not: it looks for a free handle without end when there is none. -/
def Returns (p : IA64ISAPlugin I) (call : ProtocolCall M) : Prop :=
  match call.service with
  | .loadImage _ => HandleLeft p.services
  | _ => True

/-- The status in `GR8`, unless an exception left the service. -/
def status (p : IA64ISAPlugin I) (call : ProtocolCall M) : Option UInt64 := (outcome p call).2.toOption.map (·.1)

/-- The calls that ask for a new handle. -/
def makesHandle (call : ProtocolCall M) : Bool :=
  match call.service with
  | .installProtocolInterface => readGuestU64 call.memory (call.argument 0) == some 0
  | .loadImage _ => true
  | _ => false

/-- The handle that the call made and handed out. -/
def handedOut (p : IA64ISAPlugin I) (call : ProtocolCall M) : Option UInt64 :=
  if call.makesHandle ∧ status p call = some EFI_STATUS_SUCCESS then
    (step p call).services.efiProtocolAttachments.getLast?.map (·.handle)
  else none

/-- What `HandleProtocol` answers. A zero GUID at a call site of the boot loader stands for another protocol: it
    was repaired, or the firmware's interface is given. -/
structure AnswersHandleProtocol (p : IA64ISAPlugin I) (call : ProtocolCall M) (address : UInt64) : Prop where
  requested : ∀ guid, (requestedGuid call.memory call.cpu.ip (call.argument 1)).1 = some guid →
    (isZeroEfiGuid guid = true → zeroGuidProtocol call.cpu.ip = none) →
    HandleProtocolAnswer call.globals p.services (call.argument 0) guid address
  site : ∀ guid expected, (requestedGuid call.memory call.cpu.ip (call.argument 1)).1 = some guid →
    isZeroEfiGuid guid = true → zeroGuidProtocol call.cpu.ip = some expected →
    address = call.globals.interfaceOf expected
  unreadable : (requestedGuid call.memory call.cpu.ip (call.argument 1)).1 = none → address = 0
  returned : ∀ status memory', (outcome p call).2 = .ok (status, memory') → status = statusOfInterface address ∧
    (call.argument 2 ≠ 0 → ∃ memory₁,
      IMemory.write (requestedGuid call.memory call.cpu.ip (call.argument 1)).2 (call.argument 2)
        (bytesOfWord 8 address) = .ok memory₁ ∧
      (address ≠ call.globals.EFI_SIMPLE_FILE_SYSTEM_PROTOCOL_ADDR → memory' = memory₁))

/-- What `LocateProtocol` answers, where it has somewhere to put it. -/
structure AnswersLocateProtocol (p : IA64ISAPlugin I) (call : ProtocolCall M) (address : UInt64) : Prop where
  requested : ∀ guid, readEfiGuid call.memory (call.argument 0) = some guid →
    LocateProtocolAnswer p.services guid address
  unreadable : readEfiGuid call.memory (call.argument 0) = none → address = 0
  returned : call.argument 2 ≠ 0 → ∀ status memory', (outcome p call).2 = .ok (status, memory') →
    status = statusOfInterface address ∧
      IMemory.write call.memory (call.argument 2) (bytesOfWord 8 address) = .ok memory'

/-- `LocateHandle` answers with all the handles that are wanted. -/
def AnswersLocateHandle (p : IA64ISAPlugin I) (call : ProtocolCall M) (wanted : UInt64 → Prop) : Prop :=
  ∃ handles status memory', Lists handles wanted ∧ (outcome p call).2 = .ok (status, memory') ∧
    HandlesReturned call.memory handles (call.argument 3) (call.argument 4) status memory'

/-- **What a call does.** Unless it succeeds, and unless it attaches, the database stays as it was. -/
def Answered (p : IA64ISAPlugin I) (call : ProtocolCall M) : Prop :=
  (status p call ≠ some EFI_STATUS_SUCCESS → SameDatabase p.services (step p call).services) ∧
  match call.service with
  | .installProtocolInterface => ∀ memory', (outcome p call).2 = .ok (EFI_STATUS_SUCCESS, memory') →
      ∃ inputHandle handle guid,
        Installs (p.setCpu call.cpu) call.memory (step p call).services memory' inputHandle handle guid
  | .loadImage _ => ∀ memory', (outcome p call).2 = .ok (EFI_STATUS_SUCCESS, memory') →
      ∃ image, LoadsImage (p.setCpu call.cpu) (step p call).services memory' image
  | .handleProtocol => SameDatabase p.services (step p call).services ∧ ∃ address, AnswersHandleProtocol p call address
  | .locateHandle => SameDatabase p.services (step p call).services ∧
      (call.argument 0 = EFI_LOCATE_SEARCH_ALL_HANDLES → AnswersLocateHandle p call p.services.Attached) ∧
      ∀ guid, call.argument 0 = EFI_LOCATE_SEARCH_BY_PROTOCOL → readEfiGuid call.memory (call.argument 1) = some guid →
        AnswersLocateHandle p call (p.services.Carries · guid)
  | .locateProtocol => SameDatabase p.services (step p call).services ∧ ∃ address, AnswersLocateProtocol p call address

end ProtocolCall

/-! ## One call -/

theorem returnInterface_ok {g : EfiHandoffGlobals} {memory' : M} {interfaceOut address : UInt64}
    (h : returnInterface g memory interfaceOut address = .ok memory') (hout : interfaceOut ≠ 0) :
    ∃ memory₁, IMemory.write memory interfaceOut (bytesOfWord 8 address) = .ok memory₁ ∧
      (address ≠ g.EFI_SIMPLE_FILE_SYSTEM_PROTOCOL_ADDR → memory' = memory₁) := by
  unfold returnInterface at h
  rw [if_neg hout] at h
  cases hwrite : IMemory.write memory interfaceOut (bytesOfWord 8 address) with
  | error message =>
      rw [hwrite] at h
      cases h
  | ok memory₁ =>
      rw [hwrite] at h
      refine ⟨memory₁, rfl, ?_⟩
      intro haddress
      dsimp only at h
      rw [if_neg fun hfs => haddress hfs.2] at h
      exact (Except.ok.inj h).symm

theorem services_handleProtocolStub (g : EfiHandoffGlobals) (p : IA64ISAPlugin I) (memory : M) :
    (handleProtocolStub g p memory).1.services = p.services := by
  unfold handleProtocolStub
  dsimp only
  split
  · rfl
  · split <;> rfl

theorem services_handleEfiLocateHandle (p : IA64ISAPlugin I) (memory : M) :
    (handleEfiLocateHandle p memory).2.1.services = p.services := by
  unfold handleEfiLocateHandle
  dsimp only
  repeat' split
  all_goals rfl

theorem services_handleEfiLocateProtocol (g : EfiHandoffGlobals) (p : IA64ISAPlugin I) (memory : M) :
    (handleEfiLocateProtocol g p memory).1.services = p.services := by
  unfold handleEfiLocateProtocol
  dsimp only
  split <;> rfl

theorem handleEfiLocateProtocol_result {g : EfiHandoffGlobals} (hout : readCallerOutputRegister p.cpu 2 ≠ 0) :
    (handleEfiLocateProtocol g p memory).2 =
      (IMemory.write memory (readCallerOutputRegister p.cpu 2) (bytesOfWord 8 (locateProtocolAddress g
        p.services.efiProtocolAttachments (readEfiGuid memory (readCallerOutputRegister p.cpu 0))))).map
        fun memory' => (statusOfInterface (locateProtocolAddress g p.services.efiProtocolAttachments
          (readEfiGuid memory (readCallerOutputRegister p.cpu 0))), memory') := by
  have hout' : ¬ readCallerOutputRegister (p.setCounters p.counters.countLocateProtocol).cpu 2 = 0 := hout
  unfold handleEfiLocateProtocol
  dsimp only
  rw [if_neg hout']
  rfl

theorem handleEfiLocateHandle_all (htype : readCallerOutputRegister p.cpu 0 = EFI_LOCATE_SEARCH_ALL_HANDLES) :
    handleEfiLocateHandle p memory =
      let r := returnHandles memory (owners (·.handle) p.services.efiProtocolAttachments)
        (readCallerOutputRegister p.cpu 3) (readCallerOutputRegister p.cpu 4)
      (r.1, p.setCounters p.counters.countLocateHandle, r.2) :=
  if_pos htype

theorem handleEfiLocateHandle_protocol {guid : EfiGuid}
    (htype : readCallerOutputRegister p.cpu 0 = EFI_LOCATE_SEARCH_BY_PROTOCOL)
    (hguid : readEfiGuid memory (readCallerOutputRegister p.cpu 1) = some guid) :
    handleEfiLocateHandle p memory =
      let r := returnHandles memory ((p.services.efiProtocolAttachments.filter (·.protocol = guid)).map (·.handle))
        (readCallerOutputRegister p.cpu 3) (readCallerOutputRegister p.cpu 4)
      (r.1, p.setCounters p.counters.countLocateHandle, r.2) := by
  have hall : ¬ readCallerOutputRegister p.cpu 0 = EFI_LOCATE_SEARCH_ALL_HANDLES := by
    rw [htype]
    decide
  have hnotify : ¬ readCallerOutputRegister p.cpu 0 = EFI_LOCATE_SEARCH_BY_REGISTER_NOTIFY := by
    rw [htype]
    decide
  have hpointer : ¬ readCallerOutputRegister p.cpu 1 = 0 := by
    intro hnull
    rw [readEfiGuid, if_pos hnull] at hguid
    cases hguid
  refine (if_neg hall).trans ((if_neg hnotify).trans ((if_pos htype).trans ((if_neg hpointer).trans ?_)))
  dsimp only
  rw [show readEfiGuid memory (readCallerOutputRegister (p.setCounters p.counters.countLocateHandle).cpu 1) =
    some guid from hguid]
  rfl

namespace ProtocolCall
variable {p : IA64ISAPlugin I} {call : ProtocolCall M}

theorem outcome_locateHandle (hservice : call.service = .locateHandle) :
    outcome p call =
      ((handleEfiLocateHandle (p.setCpu call.cpu) call.memory).2.1,
        .ok ((handleEfiLocateHandle (p.setCpu call.cpu) call.memory).1,
          (handleEfiLocateHandle (p.setCpu call.cpu) call.memory).2.2)) := by
  unfold outcome
  rw [hservice]

theorem outcome_handleProtocol (hservice : call.service = .handleProtocol) :
    outcome p call = handleProtocolStub call.globals (p.setCpu call.cpu) call.memory := by
  unfold outcome
  rw [hservice]

theorem outcome_locateProtocol (hservice : call.service = .locateProtocol) :
    outcome p call = handleEfiLocateProtocol call.globals (p.setCpu call.cpu) call.memory := by
  unfold outcome
  rw [hservice]

theorem answersHandleProtocol (hp : ProtocolsSound p.services) (hservice : call.service = .handleProtocol) :
    ∃ address, AnswersHandleProtocol p call address := by
  refine ⟨handleProtocolAddress call.globals p.services.efiProtocolAttachments (call.argument 0) call.cpu.ip
    (requestedGuid call.memory call.cpu.ip (call.argument 1)).1, ?_⟩
  constructor
  · intro guid hguid hsite
    rw [hguid]
    exact handleProtocolAddress_answer hp call.globals (call.argument 0) call.cpu.ip hsite
  · intro guid expected hguid hzero hsite
    rw [hguid]
    exact handleProtocolAddress_site call.globals _ _ hzero hsite
  · intro hnone
    rw [hnone]
    rfl
  · intro status memory' houtcome
    rw [outcome_handleProtocol hservice] at houtcome
    unfold handleProtocolStub at houtcome
    dsimp only at houtcome
    split at houtcome
    · cases houtcome
    · next memory₁ hreturn =>
      obtain ⟨rfl, rfl⟩ := Prod.mk.inj (Except.ok.inj houtcome)
      exact ⟨rfl, returnInterface_ok hreturn⟩

theorem answersLocateProtocol (hp : ProtocolsSound p.services) (hservice : call.service = .locateProtocol) :
    ∃ address, AnswersLocateProtocol p call address := by
  refine ⟨locateProtocolAddress call.globals p.services.efiProtocolAttachments
    (readEfiGuid call.memory (call.argument 0)), ?_⟩
  constructor
  · intro guid hguid
    rw [hguid]
    exact locateProtocolAddress_answer hp call.globals guid
  · intro hnone
    rw [hnone]
    rfl
  · intro hout status memory' houtcome
    have hout' : readCallerOutputRegister (p.setCpu call.cpu).cpu 2 ≠ 0 := hout
    rw [outcome_locateProtocol hservice, handleEfiLocateProtocol_result hout'] at houtcome
    obtain ⟨memory₁, hwrite, heq⟩ := map_eq_ok.mp houtcome
    obtain ⟨rfl, rfl⟩ := Prod.mk.inj heq
    exact ⟨rfl, hwrite⟩

/-- A search whose matching handles are what is wanted. -/
theorem answersLocateHandle_of_handles {handles : List UInt64} {wanted : UInt64 → Prop} (hlists : Lists handles wanted)
    (houtcome : (outcome p call).2 = .ok (returnHandles call.memory handles (call.argument 3) (call.argument 4))) :
    AnswersLocateHandle p call wanted :=
  ⟨handles, _, _, hlists, houtcome, returnHandles_returned call.memory handles (call.argument 3) (call.argument 4)⟩

theorem answersLocateHandle_all (hservice : call.service = .locateHandle)
    (htype : call.argument 0 = EFI_LOCATE_SEARCH_ALL_HANDLES) : AnswersLocateHandle p call p.services.Attached := by
  refine answersLocateHandle_of_handles (lists_attached p.services) ?_
  have htype' : readCallerOutputRegister (p.setCpu call.cpu).cpu 0 = EFI_LOCATE_SEARCH_ALL_HANDLES := htype
  rw [outcome_locateHandle hservice, handleEfiLocateHandle_all htype']
  rfl

theorem answersLocateHandle_protocol (hp : ProtocolsSound p.services) (hservice : call.service = .locateHandle)
    {guid : EfiGuid} (htype : call.argument 0 = EFI_LOCATE_SEARCH_BY_PROTOCOL)
    (hguid : readEfiGuid call.memory (call.argument 1) = some guid) :
    AnswersLocateHandle p call (p.services.Carries · guid) := by
  refine answersLocateHandle_of_handles (hp.lists_carriers guid) ?_
  have htype' : readCallerOutputRegister (p.setCpu call.cpu).cpu 0 = EFI_LOCATE_SEARCH_BY_PROTOCOL := htype
  rw [outcome_locateHandle hservice, handleEfiLocateHandle_protocol htype' hguid]
  rfl

/-- **Step lemma.** A call that returns does what it is to do. -/
theorem answered (hp : ProtocolsSound p.services) (hreturns : Returns p call) : Answered p call := by
  obtain ⟨globals, cpu, memory, service⟩ := call
  cases service with
  | installProtocolInterface =>
      rcases install_cases (p.setCpu cpu) memory with ⟨hstatus, hsame⟩ | ⟨hstatus, hinstalls⟩
      · refine ⟨fun _ => hsame, ?_⟩
        intro memory' houtcome
        exact absurd (congrArg Prod.fst (Except.ok.inj houtcome)) hstatus
      · refine ⟨fun hfails => absurd (congrArg some hstatus) hfails, ?_⟩
        intro memory' houtcome
        obtain ⟨-, rfl⟩ := Prod.mk.inj (Except.ok.inj houtcome)
        exact hinstalls
  | loadImage source =>
      have hsource : source.mapError LoadImageError.status ≠ .error EFI_STATUS_SUCCESS := by
        cases source with
        | error e =>
            intro h
            have hstatus : LoadImageError.status e = EFI_STATUS_SUCCESS := Except.error.inj h
            cases e <;> exact absurd hstatus (by decide)
        | ok parsed => exact nofun
      rcases loadImage_cases (g := globals) (p := p.setCpu cpu) hp hreturns memory hsource with
        ⟨hstatus, hsame⟩ | ⟨hstatus, hloads⟩
      · refine ⟨fun _ => hsame, ?_⟩
        intro memory' houtcome
        exact absurd (congrArg Prod.fst (Except.ok.inj houtcome)) hstatus
      · refine ⟨fun hfails => absurd (congrArg some hstatus) hfails, ?_⟩
        intro memory' houtcome
        obtain ⟨-, rfl⟩ := Prod.mk.inj (Except.ok.inj houtcome)
        exact hloads
  | handleProtocol =>
      have hsame := SameDatabase.of_eq (services_handleProtocolStub globals (p.setCpu cpu) memory)
      exact ⟨fun _ => hsame, hsame, answersHandleProtocol hp rfl⟩
  | locateHandle =>
      have hsame := SameDatabase.of_eq (services_handleEfiLocateHandle (p.setCpu cpu) memory)
      exact ⟨fun _ => hsame, hsame, answersLocateHandle_all rfl, fun _ => answersLocateHandle_protocol hp rfl⟩
  | locateProtocol =>
      have hsame := SameDatabase.of_eq (services_handleEfiLocateProtocol globals (p.setCpu cpu) memory)
      exact ⟨fun _ => hsame, hsame, answersLocateProtocol hp rfl⟩

/-- The handle of an attachment that was just made is the one a call may hand out. -/
theorem handedOut_of_attaches {a : EfiProtocolAttachment} (h : Attaches p.services (step p call).services a)
    {handle : UInt64} (hout : handedOut p call = some handle) : handle = a.handle := by
  unfold handedOut at hout
  rw [h.attachments, List.getLast?_concat] at hout
  split at hout
  · exact (Option.some.inj hout).symm
  · cases hout

/-- Nothing is handed out by a call that fails, and nothing by a lookup. -/
theorem handedOut_made {handle : UInt64} (hout : handedOut p call = some handle) :
    status p call = some EFI_STATUS_SUCCESS ∧
      ((call.service = .installProtocolInterface ∧ readGuestU64 call.memory (call.argument 0) = some 0) ∨
        ∃ source, call.service = .loadImage source) := by
  unfold handedOut at hout
  split at hout
  · next hmade =>
    refine ⟨hmade.2, ?_⟩
    have hmakes := hmade.1
    unfold makesHandle at hmakes
    split at hmakes
    · next hservice => exact Or.inl ⟨hservice, eq_of_beq hmakes⟩
    · next source hservice => exact Or.inr ⟨source, hservice⟩
    · cases hmakes
  · cases hout

/-- A call with a status has an outcome with that status. -/
theorem outcome_of_status {status : UInt64} (h : ProtocolCall.status p call = some status) :
    ∃ memory', (outcome p call).2 = .ok (status, memory') := by
  unfold ProtocolCall.status at h
  cases houtcome : (outcome p call).2 with
  | error message =>
      rw [houtcome] at h
      cases h
  | ok r =>
      rw [houtcome] at h
      obtain rfl := Option.some.inj h
      exact ⟨r.2, rfl⟩

variable (hp : ProtocolsSound p.services) (hreturns : Returns p call)
include hp hreturns

/-- **The database after a call**: as it was, or with one more attachment. -/
theorem step_cases :
    SameDatabase p.services (step p call).services ∨ ∃ a, Attaches p.services (step p call).services a := by
  have hanswered := answered hp hreturns
  by_cases hstatus : status p call = some EFI_STATUS_SUCCESS
  · obtain ⟨memory', houtcome⟩ := outcome_of_status hstatus
    have hservice := hanswered.2
    split at hservice
    · obtain ⟨_, _, _, hinstalls⟩ := hservice memory' houtcome
      exact Or.inr ⟨_, hinstalls.attaches⟩
    · obtain ⟨_, hloads⟩ := hservice memory' houtcome
      exact Or.inr ⟨_, hloads.attaches⟩
    · exact Or.inl hservice.1
    · exact Or.inl hservice.1
    · exact Or.inl hservice.1
  · exact Or.inl (hanswered.1 hstatus)

theorem sound_step : ProtocolsSound (step p call).services := by
  rcases step_cases hp hreturns with hsame | ⟨a, hattaches⟩
  · exact hsame.sound hp
  · exact hattaches.sound hp

theorem attached_step {handle : UInt64} (h : p.services.Attached handle) : (step p call).services.Attached handle := by
  rcases step_cases hp hreturns with hsame | ⟨a, hattaches⟩
  · exact hsame.attached.mpr h
  · exact hattaches.attached.mpr (Or.inl h)

/-- **A handle that is handed out is new**, and it is attached from then on. -/
theorem handedOut_new {handle : UInt64} (hout : handedOut p call = some handle) :
    ¬ p.services.Attached handle ∧ (step p call).services.Attached handle := by
  obtain ⟨hstatus, hmade⟩ := handedOut_made hout
  obtain ⟨memory', houtcome⟩ := outcome_of_status hstatus
  have hservice := (answered hp hreturns).2
  rcases hmade with ⟨hinstall, hnull⟩ | ⟨source, hload⟩
  · rw [hinstall] at hservice
    obtain ⟨inputHandle, handle', guid, hinstalls⟩ := hservice memory' houtcome
    obtain rfl := handedOut_of_attaches hinstalls.attaches hout
    obtain rfl : 0 = inputHandle := Option.some.inj (hnull.symm.trans hinstalls.handle_read)
    have hnew := hinstalls.attached
    rw [if_pos rfl] at hnew
    exact ⟨hnew, hinstalls.attaches.attached.mpr (Or.inr rfl)⟩
  · rw [hload] at hservice
    obtain ⟨image, hloads⟩ := hservice memory' houtcome
    obtain rfl := handedOut_of_attaches hloads.attaches hout
    exact ⟨hloads.not_attached, hloads.attaches.attached.mpr (Or.inr rfl)⟩

end ProtocolCall

/-! ## Runs -/

/-- The firmware's own handles. -/
def fixedHandles : List UInt64 := [EFI_IMAGE_HANDLE, EFI_IMAGE_DEVICE_HANDLE, EFI_CONSOLE_INPUT_HANDLE]

theorem ProtocolsSound.attached_fixed (h : ProtocolsSound s) : ∀ handle ∈ fixedHandles, s.Attached handle := by
  obtain ⟨himage, hdevice, hconsole, -⟩ := h.carries_fixed
  simp [fixedHandles, himage.attached, hdevice.attached, hconsole.attached]

/-- **The protocol database over any sequence of calls**: no handle carries a protocol twice, the handles handed out
    are new, and every call does what it is to do. -/
theorem protocols_run (hp : FreshProtocols p.services) {calls : List (ProtocolCall M)}
    (hreturns : EveryStep ProtocolCall.step ProtocolCall.Returns p calls) :
    UniqueKeys EfiProtocolAttachment.key (run ProtocolCall.step p calls).services.efiProtocolAttachments ∧
      (given ProtocolCall.step ProtocolCall.handedOut p calls).Nodup ∧
      (∀ handle ∈ given ProtocolCall.step ProtocolCall.handedOut p calls, handle ∉ fixedHandles) ∧
      EveryStep ProtocolCall.step ProtocolCall.Answered p calls := by
  have hstep : ∀ (q : IA64ISAPlugin I) (call : ProtocolCall M), ProtocolsSound q.services → ProtocolCall.Returns q call →
      ProtocolsSound (ProtocolCall.step q call).services := fun q call => ProtocolCall.sound_step
  have hsound := hp.sound
  have hrun := run_invariant (fun q => ProtocolsSound q.services) hstep hsound hreturns
  obtain ⟨hnodup, hunknown⟩ := given_fresh (fun q => ProtocolsSound q.services) (fun q handle => q.services.Attached handle)
    hstep (fun q call handle hq hr hout => ProtocolCall.handedOut_new hq hr hout)
    (fun q call handle hq hr h => ProtocolCall.attached_step hq hr h) hsound hreturns
  refine ⟨hrun.unique, hnodup, ?_, ?_⟩
  · intro handle hout hfixed
    exact hunknown handle hout (hsound.attached_fixed handle hfixed)
  · exact everyStep_of_invariant (fun q => ProtocolsSound q.services) hstep
      (fun q call hq hr => ProtocolCall.answered hq hr) hsound hreturns

end Services

/-- A plugin as it is built, before its first step. -/
def newPlugin : IA64ISAPlugin Unit := .construct resetEfiHandoffLayoutGlobals

theorem freshProtocols_newPlugin : FreshProtocols newPlugin.services := by
  refine ⟨⟨resetEfiHandoffLayoutGlobals, rfl⟩, ?_⟩
  intro handle hfind
  exact absurd rfl hfind

/-- A call with its arguments in the output registers, and the GUID of the simple file system at `0x10`. -/
def callWith (arguments : List UInt64) (service : ProtocolService) : ProtocolCall FlatMemory where
  globals := resetEfiHandoffLayoutGlobals
  cpu := arguments.zipIdx.foldl (fun cpu e => cpu.setGR (Fin.ofNat 128 (32 + e.2)) e.1) .reset
  memory := ⟨List.replicate 16 0 ++ EFI_SIMPLE_FILE_SYSTEM_PROTOCOL_GUID.toList ++ List.replicate 32 0⟩
  service := service

/-- A new handle is made for the simple file system, `LoadImage` fails, and the handles are listed. -/
theorem protocols_run_install :
    let calls := [callWith [0x20, 0x10, 0, 0x5000] .installProtocolInterface,
      callWith [] (.loadImage (.error .noMedia)), callWith [2, 0x10, 0, 0x20, 0x28] .locateHandle]
    UniqueKeys EfiProtocolAttachment.key (run ProtocolCall.step newPlugin calls).services.efiProtocolAttachments ∧
      (given ProtocolCall.step ProtocolCall.handedOut newPlugin calls).Nodup ∧
      (∀ handle ∈ given ProtocolCall.step ProtocolCall.handedOut newPlugin calls, handle ∉ fixedHandles) ∧
      EveryStep ProtocolCall.step ProtocolCall.Answered newPlugin calls :=
  protocols_run freshProtocols_newPlugin ⟨trivial, handleLeft_of_length (by decide +kernel), trivial, trivial⟩

/-- **`HandleProtocol` gives what is not attached**: the console handle answers to the simple file system. -/
theorem handleProtocol_unattached :
    FreshProtocols newPlugin.services ∧
      (callWith [EFI_CONSOLE_INPUT_HANDLE, 0x10, 0x20] .handleProtocol).status newPlugin = some EFI_STATUS_SUCCESS ∧
      ¬ newPlugin.services.Carries EFI_CONSOLE_INPUT_HANDLE EFI_SIMPLE_FILE_SYSTEM_PROTOCOL_GUID := by
  refine ⟨freshProtocols_newPlugin, by decide +kernel, ?_⟩
  rw [← duplicateProtocol_iff]
  decide +kernel

end GuideXOS.Isa
