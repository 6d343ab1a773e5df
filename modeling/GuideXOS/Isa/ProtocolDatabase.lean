import GuideXOS.Isa.Protocols

/-!
# `ProtocolDatabase` — which handle carries which protocol

The database is the list of attachments together with the loaded images. It starts from the firmware's own four
attachments and only ever grows: a call attaches a protocol to a handle that does not carry it (`Attaches`), or
leaves the database as it found it (`SameDatabase`), rolled back where the call had gone further. Either keeps
the invariant `ProtocolsSound`.

`install_cases` and `loadImage_cases` say which of the two the attaching services do, and when.
-/

namespace GuideXOS.Isa
open Lib Lib.Words Lib.Runs Lib.Registry GuideXOS.Core

/-! ## The database -/

namespace EfiServices

def Attached (s : EfiServices) (handle : UInt64) : Prop := ∃ a ∈ s.efiProtocolAttachments, a.handle = handle

/-- The handle carries the protocol. -/
def Carries (s : EfiServices) (handle : UInt64) (guid : EfiGuid) : Prop :=
  ∃ a ∈ s.efiProtocolAttachments, a.handle = handle ∧ a.protocol = guid

theorem Carries.attached {s : EfiServices} {handle : UInt64} {guid : EfiGuid} (h : s.Carries handle guid) :
    s.Attached handle := by
  obtain ⟨a, ha, hhandle, -⟩ := h
  exact ⟨a, ha, hhandle⟩

end EfiServices

/-- The attachments of the firmware itself. -/
def fixedAttachments (g : EfiHandoffGlobals) : List EfiProtocolAttachment :=
  (EfiServices.resetEfiProtocolAttachments g {}).efiProtocolAttachments

/-- Nothing was attached, loaded or taken back. -/
structure SameDatabase (s t : EfiServices) : Prop where
  attachments : t.efiProtocolAttachments = s.efiProtocolAttachments
  images : t.efiLoadedImages = s.efiLoadedImages

/-- One more attachment, under a pair that had none, and at most an image of the same handle. -/
structure Attaches (s t : EfiServices) (a : EfiProtocolAttachment) : Prop where
  attachments : t.efiProtocolAttachments = s.efiProtocolAttachments ++ [a]
  images : t.efiLoadedImages = s.efiLoadedImages ∨ ∃ image, t.efiLoadedImages = s.efiLoadedImages.insert a.handle image
  new : ¬ s.Carries a.handle a.protocol

/-- **The invariant.** -/
structure ProtocolsSound (s : EfiServices) : Prop where
  fixed : ∃ g, fixedAttachments g <+: s.efiProtocolAttachments
  unique : UniqueKeys EfiProtocolAttachment.key s.efiProtocolAttachments
  images : ∀ handle, s.efiLoadedImages.find? handle ≠ none → s.Attached handle

/-- What construction, reset and layout leave behind, and the initial image loaded over it. -/
structure FreshProtocols (s : EfiServices) : Prop where
  attachments : ∃ g, s.efiProtocolAttachments = fixedAttachments g
  images : ∀ handle, s.efiLoadedImages.find? handle ≠ none → handle = EFI_IMAGE_HANDLE

theorem fixedAttachments_map_key (g : EfiHandoffGlobals) :
    (fixedAttachments g).map EfiProtocolAttachment.key =
      [(EFI_IMAGE_HANDLE, EFI_LOADED_IMAGE_PROTOCOL_GUID),
        (EFI_IMAGE_DEVICE_HANDLE, EFI_SIMPLE_FILE_SYSTEM_PROTOCOL_GUID),
        (EFI_CONSOLE_INPUT_HANDLE, EFI_SIMPLE_TEXT_INPUT_PROTOCOL_GUID),
        (EFI_CONSOLE_INPUT_HANDLE, EFI_SIMPLE_TEXT_INPUT_EX_PROTOCOL_GUID)] := rfl

variable {s : EfiServices} {attachments : List EfiProtocolAttachment}

theorem FreshProtocols.sound (h : FreshProtocols s) : ProtocolsSound s := by
  obtain ⟨g, hg⟩ := h.attachments
  refine ⟨⟨g, hg ▸ List.prefix_rfl⟩, ?_, ?_⟩
  · rw [hg, UniqueKeys, fixedAttachments_map_key]
    decide
  · intro handle hfind
    obtain rfl := h.images handle hfind
    refine ⟨⟨EFI_IMAGE_HANDLE, EFI_LOADED_IMAGE_PROTOCOL_GUID, g.EFI_LOADED_IMAGE_PROTOCOL_ADDR⟩, ?_, rfl⟩
    rw [hg]
    exact List.mem_cons_self

namespace SameDatabase
variable {s t u : EfiServices}

theorem refl (s : EfiServices) : SameDatabase s s := ⟨rfl, rfl⟩

theorem of_eq (h : t = s) : SameDatabase s t := h ▸ refl s

theorem attached (h : SameDatabase s t) {handle : UInt64} : t.Attached handle ↔ s.Attached handle := by
  rw [EfiServices.Attached, EfiServices.Attached, h.attachments]

theorem sound (h : SameDatabase s t) (hs : ProtocolsSound s) : ProtocolsSound t := by
  refine ⟨?_, ?_, ?_⟩
  · rw [h.attachments]
    exact hs.fixed
  · rw [h.attachments]
    exact hs.unique
  · intro handle hfind
    rw [h.images] at hfind
    exact h.attached.mpr (hs.images handle hfind)

end SameDatabase

namespace Attaches
variable {s t : EfiServices} {a : EfiProtocolAttachment}

theorem attached (h : Attaches s t a) {handle : UInt64} :
    t.Attached handle ↔ s.Attached handle ∨ handle = a.handle := by
  unfold EfiServices.Attached
  rw [h.attachments]
  simp only [List.mem_append, List.mem_singleton, or_and_right, exists_or, exists_eq_left]
  rw [eq_comm (a := a.handle)]

theorem sound (h : Attaches s t a) (hs : ProtocolsSound s) : ProtocolsSound t := by
  refine ⟨?_, ?_, ?_⟩
  · obtain ⟨g, hg⟩ := hs.fixed
    rw [h.attachments]
    exact ⟨g, hg.trans (List.prefix_append _ _)⟩
  · rw [h.attachments]
    refine uniqueKeys_append hs.unique ?_
    intro b hb hkey
    exact h.new ⟨b, hb, congrArg Prod.fst hkey, congrArg Prod.snd hkey⟩
  · intro handle hfind
    rw [h.attached]
    rcases h.images with himages | ⟨image, himages⟩
    · rw [himages] at hfind
      exact Or.inl (hs.images handle hfind)
    · by_cases hhandle : handle = a.handle
      · exact Or.inr hhandle
      · rw [himages, OrdMap.find?_insert_ne hhandle] at hfind
        exact Or.inl (hs.images handle hfind)

end Attaches

/-! ## Free handles -/

theorem handleExists_iff {handle : UInt64} :
    handleExists s.efiProtocolAttachments handle = true ↔ s.Attached handle := by
  simp [handleExists, EfiServices.Attached]

theorem duplicateProtocol_iff {handle : UInt64} {guid : EfiGuid} :
    duplicateProtocol s.efiProtocolAttachments handle guid = true ↔ s.Carries handle guid := by
  simp [duplicateProtocol, EfiServices.Carries]

/-- A search of `InstallProtocolInterface` that succeeds stops at a handle that nothing is attached to. -/
theorem findSyntheticHandle_free {left : Nat} {start handle : UInt64}
    (h : findSyntheticHandle attachments left start = (true, handle)) : handleExists attachments handle = false := by
  induction left generalizing start with
  | zero =>
      obtain ⟨hfree, rfl⟩ := Prod.mk.inj h
      simp only [Bool.not_eq_true', Bool.or_eq_false_iff] at hfree
      exact hfree.2
  | succ left ih =>
      unfold findSyntheticHandle at h
      split at h
      · exact ih h
      · next htaken =>
        obtain ⟨-, rfl⟩ := Prod.mk.inj h
        push Not at htaken
        simpa using htaken.2.2.2

/-- `LoadImage` looks for a free handle as long as it takes; with none left it does not return. -/
def HandleLeft (s : EfiServices) : Prop := ∃ handle, handle ≠ 0 ∧ handle ≠ EFI_IMAGE_HANDLE ∧ ¬ s.Attached handle

/-- The handles that `LoadImage` passes over. -/
def takenHandles (attachments : List EfiProtocolAttachment) : List UInt64 :=
  0 :: EFI_IMAGE_HANDLE :: attachments.map (·.handle)

theorem mem_takenHandles {handle : UInt64} :
    handle ∈ takenHandles attachments ↔
      handle = 0 ∨ handle = EFI_IMAGE_HANDLE ∨ attachments.any (·.handle = handle) = true := by
  simp [takenHandles]

theorem handleLeft_iff : HandleLeft s ↔ ∃ handle, handle ∉ takenHandles s.efiProtocolAttachments := by
  unfold HandleLeft
  refine exists_congr fun handle => ?_
  rw [mem_takenHandles, ← handleExists_iff, handleExists]
  push Not
  rfl

/-- Fewer attachments than there are handles leave a handle. -/
theorem handleLeft_of_length (h : s.efiProtocolAttachments.length + 2 < 2 ^ 64) : HandleLeft s := by
  have hlt : (takenHandles s.efiProtocolAttachments).length < 2 ^ 64 := by
    simp only [takenHandles, List.length_cons, List.length_map]
    omega
  obtain ⟨i, -, hfree⟩ := exists_free (takenHandles s.efiProtocolAttachments) 0 hlt le_rfl
  exact handleLeft_iff.mpr ⟨_, hfree⟩

/-- The search stops at the first free handle that it reaches. -/
theorem nextSyntheticHandle_free {fuel i : Nat} {start : UInt64} (hi : i < fuel)
    (hfree : start + UInt64.ofNat i ∉ takenHandles attachments) :
    nextSyntheticHandle attachments fuel start ∉ takenHandles attachments := by
  induction fuel generalizing start i with
  | zero => exact absurd hi (Nat.not_lt_zero i)
  | succ fuel ih =>
      unfold nextSyntheticHandle
      split
      · next htaken =>
        cases i with
        | zero =>
            have hzero : start + UInt64.ofNat 0 = start := by simp
            rw [hzero] at hfree
            exact absurd (mem_takenHandles.mpr htaken) hfree
        | succ i =>
            refine ih (Nat.lt_of_succ_lt_succ hi) ?_
            rwa [UInt64.ofNat_add, UInt64.add_comm (UInt64.ofNat i), ← UInt64.add_assoc] at hfree
      · next htaken => exact fun hmem => htaken (mem_takenHandles.mp hmem)

/-- **`LoadImage` finds a free handle where there is one**: the handles it can pass over are fewer than those it
    tries. -/
theorem nextSyntheticHandle_of_handleLeft (h : HandleLeft s) (start : UInt64) :
    nextSyntheticHandle s.efiProtocolAttachments (s.efiProtocolAttachments.length + 3) start ∉
      takenHandles s.efiProtocolAttachments := by
  have hlength : (takenHandles s.efiProtocolAttachments).length = s.efiProtocolAttachments.length + 2 := by
    simp [takenHandles]
  by_cases hfew : s.efiProtocolAttachments.length + 3 ≤ 2 ^ 64
  · obtain ⟨i, hi, hfree⟩ := exists_free (takenHandles s.efiProtocolAttachments) start
      (show _ < s.efiProtocolAttachments.length + 3 by omega) hfew
    exact nextSyntheticHandle_free hi hfree
  · -- more attempts than handles: the free one comes before the last attempt
    obtain ⟨handle, hfree⟩ := handleLeft_iff.mp h
    have hreach : start + UInt64.ofNat (handle - start).toNat = handle := by
      rw [UInt64.ofNat_toNat, UInt64.add_comm, UInt64.sub_add_cancel]
    have hlt := (handle - start).toNat_lt
    exact nextSyntheticHandle_free (i := (handle - start).toNat) (by omega) (hreach.symm ▸ hfree)

/-! ## Attaching calls -/

theorem invalid_ne_success : EFI_STATUS_INVALID_PARAMETER ≠ EFI_STATUS_SUCCESS := by decide

theorem outOfResources_ne_success : EFI_STATUS_OUT_OF_RESOURCES ≠ EFI_STATUS_SUCCESS := by decide

section Services
variable {I M : Type} [IMemory M] {p : IA64ISAPlugin I} (g : EfiHandoffGlobals) {t : EfiServices}
  {image : EfiLoadedImage}

/-- A successful `InstallProtocolInterface`: the interface is attached to the handle that stands at the handle
    pointer, or to a new one where that is null, and the handle is written back. -/
structure Installs (p : IA64ISAPlugin I) (memory : M) (t : EfiServices) (memory' : M) (inputHandle handle : UInt64)
    (guid : EfiGuid) : Prop where
  handle_read : readGuestU64 memory (readCallerOutputRegister p.cpu 0) = some inputHandle
  guid_read : readEfiGuid memory (readCallerOutputRegister p.cpu 1) = some guid
  attached : if inputHandle = 0 then ¬ p.services.Attached handle
    else handle = inputHandle ∧ p.services.Attached handle ∧ ¬ p.services.Carries handle guid
  attachments : t.efiProtocolAttachments =
    p.services.efiProtocolAttachments ++ [⟨handle, guid, readCallerOutputRegister p.cpu 3⟩]
  images : t.efiLoadedImages = p.services.efiLoadedImages
  handle_written : writeGuestU64 memory (readCallerOutputRegister p.cpu 0) handle = some memory'

theorem Installs.attaches {memory memory' : M} {inputHandle handle : UInt64} {guid : EfiGuid}
    (h : Installs p memory t memory' inputHandle handle guid) :
    Attaches p.services t ⟨handle, guid, readCallerOutputRegister p.cpu 3⟩ := by
  refine ⟨h.attachments, Or.inl h.images, ?_⟩
  have hattached := h.attached
  split at hattached
  · exact fun hcarries => hattached hcarries.attached
  · exact hattached.2.2

/-- The attachment is made, or taken back with the rest of the database as it was. -/
theorem attachProtocol_cases (p : IA64ISAPlugin I) (memory : M) (handlePointer : UInt64) (a : EfiProtocolAttachment) :
    ((attachProtocol p memory handlePointer a).1 = EFI_STATUS_INVALID_PARAMETER ∧
      SameDatabase p.services (attachProtocol p memory handlePointer a).2.1.services) ∨
    ((attachProtocol p memory handlePointer a).1 = EFI_STATUS_SUCCESS ∧
      (attachProtocol p memory handlePointer a).2.1.services.efiProtocolAttachments =
        p.services.efiProtocolAttachments ++ [a] ∧
      (attachProtocol p memory handlePointer a).2.1.services.efiLoadedImages = p.services.efiLoadedImages ∧
      writeGuestU64 memory handlePointer a.handle = some (attachProtocol p memory handlePointer a).2.2) := by
  unfold attachProtocol
  cases hwrite : writeGuestU64 memory handlePointer a.handle with
  | none => exact Or.inl ⟨rfl, List.dropLast_concat, rfl⟩
  | some memory' => exact Or.inr ⟨rfl, rfl, rfl, rfl⟩

/-- **`InstallProtocolInterface`** attaches what it is asked to, or fails and leaves the database as it was. -/
theorem install_cases (p : IA64ISAPlugin I) (memory : M) :
    ((handleEfiInstallProtocolInterface p memory).1 ≠ EFI_STATUS_SUCCESS ∧
      SameDatabase p.services (handleEfiInstallProtocolInterface p memory).2.1.services) ∨
    ((handleEfiInstallProtocolInterface p memory).1 = EFI_STATUS_SUCCESS ∧ ∃ inputHandle handle guid,
      Installs p memory (handleEfiInstallProtocolInterface p memory).2.1.services
        (handleEfiInstallProtocolInterface p memory).2.2 inputHandle handle guid) := by
  unfold handleEfiInstallProtocolInterface
  dsimp only
  split
  · exact Or.inl ⟨invalid_ne_success, .refl _⟩
  split
  · next inputHandle guid hhandle hguid =>
    split
    · next hnull =>
      split
      · exact Or.inl ⟨outOfResources_ne_success, rfl, rfl⟩
      · next handle hsearch =>
        have hfree := findSyntheticHandle_free hsearch
        rcases attachProtocol_cases (p.setNextSyntheticHandle (handle + 1)) memory (readCallerOutputRegister p.cpu 0)
          ⟨handle, guid, readCallerOutputRegister p.cpu 3⟩ with ⟨hstatus, hsame⟩ | ⟨hstatus, hattach, himages, hwrite⟩
        · exact Or.inl ⟨hstatus ▸ invalid_ne_success, hsame.attachments, hsame.images⟩
        · refine Or.inr ⟨hstatus, inputHandle, handle, guid, hhandle, hguid, ?_, hattach, himages, hwrite⟩
          rw [if_pos hnull]
          intro hattached
          rw [handleExists_iff.mpr hattached] at hfree
          cases hfree
    · next hnull =>
      split
      · exact Or.inl ⟨invalid_ne_success, .refl _⟩
      · next hvalid =>
        simp only [Bool.or_eq_true, not_or, Bool.not_eq_true', Bool.not_eq_false] at hvalid
        rcases attachProtocol_cases p memory (readCallerOutputRegister p.cpu 0)
          ⟨inputHandle, guid, readCallerOutputRegister p.cpu 3⟩ with ⟨hstatus, hsame⟩ | ⟨hstatus, hattach, himages, hwrite⟩
        · exact Or.inl ⟨hstatus ▸ invalid_ne_success, hsame⟩
        · refine Or.inr ⟨hstatus, inputHandle, inputHandle, guid, hhandle, hguid, ?_, hattach, himages, hwrite⟩
          rw [if_neg hnull]
          refine ⟨rfl, handleExists_iff.mp hvalid.1, ?_⟩
          intro hcarries
          exact hvalid.2 (duplicateProtocol_iff.mpr hcarries)
  · exact Or.inl ⟨invalid_ne_success, .refl _⟩

/-- A successful `LoadImage`: a new handle carries the loaded image protocol, the image is recorded under it, and
    the handle is the last thing written to guest memory. -/
structure LoadsImage (p : IA64ISAPlugin I) (t : EfiServices) (memory' : M) (image : EfiLoadedImage) : Prop where
  new : image.handle ∉ takenHandles p.services.efiProtocolAttachments
  parent : image.parentHandle = readCallerOutputRegister p.cpu 1
  attachments : t.efiProtocolAttachments =
    p.services.efiProtocolAttachments ++ [⟨image.handle, EFI_LOADED_IMAGE_PROTOCOL_GUID, image.protocolAddress⟩]
  images : t.efiLoadedImages = p.services.efiLoadedImages.insert image.handle image
  handle_written : ∃ memory : M, writeGuestU64 memory (readCallerOutputRegister p.cpu 5) image.handle = some memory'

theorem LoadsImage.not_attached {memory' : M} (h : LoadsImage p t memory' image) :
    ¬ p.services.Attached image.handle := by
  intro hattached
  exact h.new (mem_takenHandles.mpr (Or.inr (Or.inr (handleExists_iff.mpr hattached))))

theorem LoadsImage.attaches {memory' : M} (h : LoadsImage p t memory' image) :
    Attaches p.services t ⟨image.handle, EFI_LOADED_IMAGE_PROTOCOL_GUID, image.protocolAddress⟩ :=
  ⟨h.attachments, Or.inr ⟨image, h.images⟩, fun hcarries => h.not_attached hcarries.attached⟩

section
variable (p : IA64ISAPlugin I) (memory : M)

theorem services_ensureEfiMemoryMap : (ensureEfiMemoryMap g p memory).2.services = p.services := by
  unfold ensureEfiMemoryMap
  dsimp only
  split
  · rfl
  · split <;> rfl

theorem services_allocateEfiImagePages (numberOfPages : UInt64)
    (memoryType : UInt32) : (allocateEfiImagePages g p memory numberOfPages memoryType).2.services = p.services := by
  unfold allocateEfiImagePages
  dsimp only
  have hensure := services_ensureEfiMemoryMap g p memory
  repeat' split
  all_goals first | rfl | exact hensure

theorem services_allocateEfiPool (size : UInt64) (memoryType : UInt32)
    (alignment : UInt64) : (allocateEfiPool g p memory size memoryType alignment).2.1.services = p.services := by
  unfold allocateEfiPool
  dsimp only
  have hensure := services_ensureEfiMemoryMap g p memory
  repeat' split
  all_goals first | rfl | exact hensure

end

/-- What `LoadImage` does to the database: the child is registered, or rolled back without a trace. -/
theorem registerChildImage_cases {g : EfiHandoffGlobals} (hsound : ProtocolsSound p.services)
    (hleft : HandleLeft p.services) (memory : M) (parentHandle devicePath imageHandleOut protocolAddress imageBase
      numberOfPages imageSize entryPoint globalPointer : UInt64) :
    let r := registerChildImage g p memory parentHandle devicePath imageHandleOut protocolAddress imageBase
      numberOfPages imageSize entryPoint globalPointer
    (r.1 = EFI_STATUS_INVALID_PARAMETER ∧ SameDatabase p.services r.2.1.services) ∨
    (r.1 = EFI_STATUS_SUCCESS ∧ ∃ image : EfiLoadedImage,
      image.handle ∉ takenHandles p.services.efiProtocolAttachments ∧ image.parentHandle = parentHandle ∧
      r.2.1.services.efiProtocolAttachments = p.services.efiProtocolAttachments ++
        [⟨image.handle, EFI_LOADED_IMAGE_PROTOCOL_GUID, image.protocolAddress⟩] ∧
      r.2.1.services.efiLoadedImages = p.services.efiLoadedImages.insert image.handle image ∧
      ∃ memory₁ : M, writeGuestU64 memory₁ imageHandleOut image.handle = some r.2.2) := by
  unfold registerChildImage
  dsimp only
  have hnew := nextSyntheticHandle_of_handleLeft hleft p.services.efiNextSyntheticHandle
  generalize nextSyntheticHandle p.services.efiProtocolAttachments (p.services.efiProtocolAttachments.length + 3)
    p.services.efiNextSyntheticHandle = childHandle at hnew ⊢
  have hfree : ∀ a ∈ p.services.efiProtocolAttachments, a.handle ≠ childHandle := by
    intro a ha hhandle
    exact hnew (mem_takenHandles.mpr (Or.inr (Or.inr (handleExists_iff.mpr ⟨a, ha, hhandle⟩))))
  -- loaded images are filed under attached handles, so there is none under the new one
  have hnone : p.services.efiLoadedImages.find? childHandle = none := by
    by_contra hfind
    obtain ⟨a, ha, hhandle⟩ := hsound.images childHandle hfind
    exact hfree a ha hhandle
  split
  · refine Or.inl ⟨rfl, ?_, ?_⟩
    · exact List.filter_eq_self.mpr (by simpa using hfree)
    · exact OrdMap.erase_of_find?_none hnone
  · next memory₁ hfields =>
    rw [OrdMap.emplace?_of_find?_none hnone, Option.getD_some]
    split
    · refine Or.inl ⟨rfl, ?_, ?_⟩
      · exact filter_append_fresh EfiProtocolAttachment.handle
          (a := ⟨childHandle, EFI_LOADED_IMAGE_PROTOCOL_GUID, protocolAddress⟩) hfree
      · exact OrdMap.erase_insert hnone _
    · next memory₂ hwrite =>
      refine Or.inr ⟨rfl, ⟨childHandle, protocolAddress, parentHandle, EFI_IMAGE_DEVICE_HANDLE, imageBase, imageSize,
        entryPoint, globalPointer, devicePath⟩, hnew, rfl, rfl, rfl, memory₁, hwrite⟩

/-- **`LoadImage`** registers an image under a new handle, or fails and leaves the database as it was. -/
theorem loadImage_cases {g : EfiHandoffGlobals} (hsound : ProtocolsSound p.services) (hleft : HandleLeft p.services)
    (memory : M) {source : Except UInt64 ParsedImage} (hsource : source ≠ .error EFI_STATUS_SUCCESS) :
    ((handleEfiLoadImage g p memory source).1 ≠ EFI_STATUS_SUCCESS ∧
      SameDatabase p.services (handleEfiLoadImage g p memory source).2.1.services) ∨
    ((handleEfiLoadImage g p memory source).1 = EFI_STATUS_SUCCESS ∧ ∃ image,
      LoadsImage p (handleEfiLoadImage g p memory source).2.1.services (handleEfiLoadImage g p memory source).2.2
        image) := by
  unfold handleEfiLoadImage
  dsimp only
  split
  · exact Or.inl ⟨invalid_ne_success, .refl _⟩
  split
  · exact Or.inl ⟨invalid_ne_success, .refl _⟩
  split
  · next status => exact Or.inl ⟨fun h => hsource (congrArg Except.error h), .refl _⟩
  next parsed =>
  split
  · exact Or.inl ⟨invalid_ne_success, .refl _⟩
  have hpages := services_allocateEfiImagePages g p memory
    ((parsed.sizeOfImage.toUInt64 + EFI_PAGE_SIZE - 1) / EFI_PAGE_SIZE) EFI_MEMORY_LOADER_CODE
  split
  · exact Or.inl ⟨outOfResources_ne_success, .of_eq hpages⟩
  split
  · refine Or.inl ⟨?_, .of_eq hpages⟩
    split
    · exact outOfResources_ne_success
    · exact invalid_ne_success
  split
  · exact Or.inl ⟨invalid_ne_success, .of_eq hpages⟩
  next memory₁ hzero =>
  split
  · exact Or.inl ⟨invalid_ne_success, .of_eq hpages⟩
  next memory₂ hbytes =>
  have hpool := (services_allocateEfiPool g (allocateEfiImagePages g p memory
    ((parsed.sizeOfImage.toUInt64 + EFI_PAGE_SIZE - 1) / EFI_PAGE_SIZE) EFI_MEMORY_LOADER_CODE).2 memory₂ 0x60
    EFI_MEMORY_BOOT_SERVICES_DATA 0).trans hpages
  generalize allocateEfiPool g _ memory₂ 0x60 EFI_MEMORY_BOOT_SERVICES_DATA 0 = pool at hpool ⊢
  obtain ⟨protocolAddress, q, memory₃⟩ := pool
  split
  · exact Or.inl ⟨outOfResources_ne_success, .of_eq hpool⟩
  have hcases := registerChildImage_cases (g := g) (p := q) (hpool ▸ hsound) (hpool ▸ hleft) memory₃
  rcases hcases _ _ _ _ _ _ _ _ _ with ⟨hstatus, hsame⟩ | ⟨hstatus, image, hnew, hparent, hattach, himages, hwrite⟩
  · exact Or.inl ⟨hstatus ▸ invalid_ne_success, hpool ▸ hsame⟩
  · exact Or.inr ⟨hstatus, image, hpool ▸ hnew, hparent, hpool ▸ hattach, hpool ▸ himages, hwrite⟩

end Services

end GuideXOS.Isa
