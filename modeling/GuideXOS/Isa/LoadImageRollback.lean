import GuideXOS.Core.PlainMemory
import GuideXOS.Isa.EfiMapReturn
import GuideXOS.Isa.ProtocolCalls

/-!
# `LoadImageRollback` — what a failed `LoadImage` leaves behind

`LoadImage` takes image pages and a pool page, registers the child image and hands its handle out last. Each failure
gives back what was taken so far. The memory map is then the map from before, the protocol database is the same, and
guest memory differs only in pages that were free (`loadImage_failed`). That is all that keeps the caller's output
handle: a caller who wants the handle in memory that it does not own can lose what stood there (`outputHandle_lost`).
-/

namespace GuideXOS.Isa
open Lib Lib.Words Lib.Runs Lib.Segments GuideXOS.Core

/-! ## What is written -/

section Writes
variable {M : Type _} [IMemory M] {P : Nat → Prop} {memory memory' : M}

theorem writesIn_writeGuestFields (h : WritesIn P memory memory') {fields : List (Nat × UInt64 × UInt64)}
    (hfields : ∀ field ∈ fields, field.2.1.toNat + field.1 ≤ 2 ^ 64 ∧
      ∀ x, field.2.1.toNat ≤ x → x < field.2.1.toNat + field.1 → P x) :
    WritesIn P memory (writeGuestFields memory' fields).2 := by
  induction fields generalizing memory' with
  | nil => exact h
  | cons field fields ih =>
      obtain ⟨hfield, hrest⟩ := List.forall_mem_cons.mp hfields
      obtain ⟨width, address, value⟩ := field
      unfold writeGuestFields
      cases hwrite : IMemory.write memory' address (bytesOfWord width value) with
      | error _ => exact h
      | ok memory₁ =>
          have hlength : (bytesOfWord width value).length = width := length_bytesOfWord width value
          exact ih (h.step hwrite (hlength.symm ▸ hfield.1) (hlength.symm ▸ hfield.2)) hrest

end Writes

/-! ## What is given back -/

/-- Both allocations of `LoadImage` released: everything but the map key is as it was. -/
theorem releaseLoadImage_published {memorySize : UInt64} {m : EfiMemoryState} {map₁ map₂ : List EfiMemoryDescriptor}
    {image pool : EfiAllocation} (h : EfiMapInvariant memorySize m)
    (h₁ : EfiMapInvariant memorySize (m.publishPages map₁ image))
    (h₂ : EfiMapInvariant memorySize ((m.publishPages map₁ image).publishPool map₂ pool))
    (himage : HandedOut m.efiMemoryMap map₁ image) (hpool : HandedOut map₁ map₂ pool) :
    ∃ key, ((m.publishPages map₁ image).publishPool map₂ pool).releaseLoadImage pool.physicalStart image.physicalStart
      image.numberOfPages = { m with efiMemoryMapKey := key } := by
  unfold EfiMemoryState.releaseLoadImage
  rw [releasePool_publishPool h₁ h₂ hpool]
  dsimp only
  rw [Option.getD_some, releaseImage_publishPages h h₁ himage, Option.getD_some]
  exact ⟨_, rfl⟩

section Services
variable {I M : Type} [IMemory M] {g : EfiHandoffGlobals} {p p₀ : IA64ISAPlugin I} {memory : M}
  {result : UInt64 × IA64ISAPlugin I × M}

/-- The image pages released when the image cannot be loaded. -/
theorem releaseImage_published {memorySize : UInt64} {map : List EfiMemoryDescriptor} {a : EfiAllocation}
    (h : EfiMapInvariant memorySize p.memoryMap) (h₁ : EfiMapInvariant memorySize (p.memoryMap.publishPages map a))
    (hout : HandedOut p.memoryMap.efiMemoryMap map a) :
    ∃ key, ((p.setMemoryMap (p.memoryMap.publishPages map a)).releaseImage a.physicalStart
      a.numberOfPages).memoryMap = { p.memoryMap with efiMemoryMapKey := key } := by
  have hrelease := releaseImage_publishPages h h₁ hout (p.memoryMap.publishPages map a).efiMemoryMapKey
  refine ⟨(p.memoryMap.publishPages map a).efiMemoryMapKey + 1, ?_⟩
  unfold IA64ISAPlugin.releaseImage
  rw [IA64ISAPlugin.memoryMap_setMemoryMap]
  exact congrArg (Option.getD · (p.memoryMap.publishPages map a)) hrelease

theorem registerChildImage_failed {parentHandle devicePath imageHandleOut protocolAddress imageBase numberOfPages
    imageSize entryPoint globalPointer : UInt64}
    (hresult : registerChildImage g p memory parentHandle devicePath imageHandleOut protocolAddress imageBase
      numberOfPages imageSize entryPoint globalPointer = result) (hstatus : result.1 ≠ EFI_STATUS_SUCCESS) :
    result.2.1.memoryMap = p.memoryMap.releaseLoadImage protocolAddress imageBase numberOfPages ∧
      result.2.2 = (writeGuestFields memory
        (loadedImageFields g protocolAddress parentHandle devicePath imageBase imageSize)).2 := by
  subst hresult
  unfold registerChildImage at hstatus ⊢
  dsimp only at hstatus ⊢
  split at hstatus
  · next memory₁ hfields =>
    rw [hfields]
    exact ⟨rfl, rfl⟩
  · next memory₁ hfields =>
    rw [hfields]
    dsimp only
    split at hstatus
    · exact ⟨rfl, rfl⟩
    · exact absurd rfl hstatus

/-- The fields of the loaded-image protocol lie in its page. -/
theorem loadedImageFields_inside {protocolAddress : UInt64} (hend : protocolAddress.toNat + 4096 ≤ 2 ^ 64)
    (parentHandle devicePath imageBase imageSize : UInt64) :
    ∀ field ∈ loadedImageFields g protocolAddress parentHandle devicePath imageBase imageSize,
      protocolAddress.toNat ≤ field.2.1.toNat ∧ field.2.1.toNat + field.1 ≤ protocolAddress.toNat + 4096 := by
  have hat : ∀ n : Nat, n < 4096 → (protocolAddress + UInt64.ofNat n).toNat = protocolAddress.toNat + n := by
    intro n hn
    rw [UInt64.toNat_add, UInt64.toNat_ofNat_of_lt' (show n < 2 ^ 64 by omega), Nat.mod_eq_of_lt (by omega)]
  have h08 := hat 0x08 (by decide)
  have h10 := hat 0x10 (by decide)
  have h18 := hat 0x18 (by decide)
  have h20 := hat 0x20 (by decide)
  have h30 := hat 0x30 (by decide)
  have h38 := hat 0x38 (by decide)
  have h40 := hat 0x40 (by decide)
  have h48 := hat 0x48 (by decide)
  have h50 := hat 0x50 (by decide)
  have h54 := hat 0x54 (by decide)
  have h58 := hat 0x58 (by decide)
  intro field hfield
  simp only [loadedImageFields, List.mem_cons, List.not_mem_nil, or_false] at hfield
  rcases hfield with rfl | rfl | rfl | rfl | rfl | rfl | rfl | rfl | rfl | rfl | rfl | rfl
  all_goals
    dsimp only
    simp only [UInt64.reduceOfNat] at h08 h10 h18 h20 h30 h38 h40 h48 h50 h54 h58
    omega

/-- A failed call has changed at most the map key, and pages that were free. -/
structure Undone (m : EfiMemoryState) (memory : M) (result : UInt64 × IA64ISAPlugin I × M) : Prop where
  memoryMap : ∃ key, result.2.1.memoryMap = { m with efiMemoryMapKey := key }
  written : WritesIn (Free m.efiMemoryMap) memory result.2.2

theorem Undone.refl (status : UInt64) : Undone p.memoryMap memory (status, p, memory) :=
  ⟨⟨p.memoryMap.efiMemoryMapKey, rfl⟩, .refl memory⟩

/-- **The pool page of a new image, and its registration.** -/
theorem undone_registration [LawfulIMemory M] {image : EfiAllocation} {map₁ : List EfiMemoryDescriptor}
    {memory₂ : M} (h : EfiMapInvariant (getTotalSize memory) p₀.memoryMap)
    (hzero : ¬ Free p₀.memoryMap.efiMemoryMap 0)
    (h₁ : EfiMapInvariant (getTotalSize memory) (p₀.memoryMap.publishPages map₁ image))
    (himage : HandedOut p₀.memoryMap.efiMemoryMap map₁ image) (htype : image.type ≠ EFI_MEMORY_CONVENTIONAL)
    (hwritten : WritesIn (Free p₀.memoryMap.efiMemoryMap) memory memory₂)
    {parentHandle devicePath imageHandleOut imageSize entryPoint globalPointer : UInt64}
    (hresult : (match allocateEfiPool g (p₀.setMemoryMap (p₀.memoryMap.publishPages map₁ image)) memory₂ 0x60
        EFI_MEMORY_BOOT_SERVICES_DATA 0 with
      | (protocolAddress, q, memory₃) =>
          if protocolAddress = 0 then
            (EFI_STATUS_OUT_OF_RESOURCES, q.releaseImage image.physicalStart image.numberOfPages, memory₃)
          else registerChildImage g q memory₃ parentHandle devicePath imageHandleOut protocolAddress
            image.physicalStart image.numberOfPages imageSize entryPoint globalPointer) = result)
    (hstatus : result.1 ≠ EFI_STATUS_SUCCESS) : Undone p₀.memoryMap memory result := by
  have hsize := hwritten.getTotalSize_eq
  rw [← hsize] at h₁
  have hbuilt := ensureEfiMemoryMap_of_builtFor (p := p₀.setMemoryMap (p₀.memoryMap.publishPages map₁ image)) g
    h₁.builtFor
  have hcases := allocateEfiPool_cases (congrArg Prod.snd hbuilt) h₁ 0x60 EFI_MEMORY_BOOT_SERVICES_DATA 0
  have hrefused : allocateEfiPool g (p₀.setMemoryMap (p₀.memoryMap.publishPages map₁ image)) memory₂ 0x60
      EFI_MEMORY_BOOT_SERVICES_DATA 0 = (0, p₀.setMemoryMap (p₀.memoryMap.publishPages map₁ image), memory₂) →
      Undone p₀.memoryMap memory result := by
    intro hpool
    rw [hpool] at hresult
    dsimp only at hresult
    rw [if_pos rfl] at hresult
    subst hresult
    exact ⟨releaseImage_published h (hsize ▸ h₁) himage, hwritten⟩
  rcases hcases with hpool | hpool | ⟨base, map₂, hpool⟩
  · exact hrefused hpool
  · exact hrefused hpool
  obtain ⟨hout, hinv, haddress, hplugin, hcleared⟩ := hpool
  rw [hsize] at h₁ hinv
  generalize allocateEfiPool g (p₀.setMemoryMap (p₀.memoryMap.publishPages map₁ image)) memory₂ 0x60
    EFI_MEMORY_BOOT_SERVICES_DATA 0 = pool at hresult haddress hplugin hcleared
  obtain ⟨protocolAddress, q, memory₃⟩ := pool
  dsimp only at haddress hplugin hcleared hresult
  subst haddress hplugin
  -- the pool page was free before the call
  have hone : ((0x60 + EFI_PAGE_SIZE - 1) / EFI_PAGE_SIZE).toNat = 1 := by decide
  have hfree : ∀ x, protocolAddress.toNat ≤ x → x < protocolAddress.toNat + 4096 →
      Free p₀.memoryMap.efiMemoryMap x := by
    intro x hlo hhi
    refine himage.free_of_free htype (hout.free_of_range hlo ?_)
    dsimp only
    rw [hone]
    exact hhi
  have hend : protocolAddress.toNat + 4096 ≤ 2 ^ 64 := by
    have hstop := hout.stop_le h₁.sound
    have hlt := (physicalEndOf (getTotalSize memory)).toNat_lt
    have hrange : (EfiAllocation.mk protocolAddress ((0x60 + EFI_PAGE_SIZE - 1) / EFI_PAGE_SIZE)
        EFI_MEMORY_BOOT_SERVICES_DATA).toRange.stop = protocolAddress.toNat + 4096 := by
      show protocolAddress.toNat + _ * 4096 = _
      rw [hone]
    omega
  split at hresult
  · next hnull =>
    -- a pool page at address 0 would be free, and page 0 never is
    refine absurd (hfree 0 ?_ ?_) hzero
    · rw [hnull]
      exact le_rfl
    · exact Nat.lt_of_lt_of_le (by decide) (Nat.le_add_left _ _)
  · obtain ⟨hmap, hmemory⟩ := registerChildImage_failed hresult hstatus
    refine ⟨?_, ?_⟩
    · rw [hmap]
      exact releaseLoadImage_published h h₁ hinv himage hout
    · have hlength : (List.replicate (((0x60 + EFI_PAGE_SIZE - 1) / EFI_PAGE_SIZE) * EFI_PAGE_SIZE).toNat
          (0 : UInt8)).length = 4096 := List.length_replicate
      have hpage := hwritten.step hcleared (by rw [hlength]; exact hend) (by rw [hlength]; exact hfree)
      rw [hmemory]
      refine writesIn_writeGuestFields hpage fun field hfield => ?_
      obtain ⟨hlo, hhi⟩ := loadedImageFields_inside hend _ _ _ _ field hfield
      exact ⟨hhi.trans hend, fun x hx hx' => hfree x (hlo.trans hx) (lt_of_lt_of_le hx' hhi)⟩

/-- **A failed `LoadImage`** has done nothing, or it has undone what it did. -/
theorem loadImage_failed [LawfulIMemory M] (hready : (ensureEfiMemoryMap g p memory).2 = p₀)
    (h : EfiMapInvariant (getTotalSize memory) p₀.memoryMap) (hzero : ¬ Free p₀.memoryMap.efiMemoryMap 0)
    {source : Except UInt64 ParsedImage} (hresult : handleEfiLoadImage g p memory source = result)
    (hstatus : result.1 ≠ EFI_STATUS_SUCCESS) :
    result.2 = (p, memory) ∨
      (guestRangeWithinReportedMemory memory (readCallerOutputRegister p.cpu 5) 8 = some true ∧
        Undone p₀.memoryMap memory result) := by
  unfold handleEfiLoadImage at hresult
  dsimp only at hresult
  -- the arguments, the source, the image and its size are checked before anything is done
  split at hresult
  · exact Or.inl (hresult ▸ rfl)
  next hargs =>
  split at hresult
  · exact Or.inl (hresult ▸ rfl)
  split at hresult
  · exact Or.inl (hresult ▸ rfl)
  next parsed =>
  split at hresult
  · exact Or.inl (hresult ▸ rfl)
  have hrange : guestRangeWithinReportedMemory memory (readCallerOutputRegister p.cpu 5) 8 = some true := by
    by_contra hno
    exact hargs (Or.inr (Or.inr (Or.inl hno)))
  -- from here on a failure has the pages of the image to give back
  generalize (parsed.sizeOfImage.toUInt64 + EFI_PAGE_SIZE - 1) / EFI_PAGE_SIZE = numberOfPages at hresult
  rcases allocateEfiImagePages_cases hready h numberOfPages EFI_MEMORY_LOADER_CODE with hpages | hpages |
    ⟨imageBase, map₁, himage, h₁, hpages⟩
  · rw [hpages] at hresult
    exact Or.inl (hresult ▸ rfl)
  · rw [hpages] at hresult
    obtain rfl : (EFI_STATUS_OUT_OF_RESOURCES, p₀, memory) = result := hresult
    exact Or.inr ⟨hrange, .refl _⟩
  refine Or.inr ⟨hrange, ?_⟩
  rw [hpages] at hresult
  dsimp only at hresult
  have hnonzero : imageBase ≠ 0 := by
    rintro rfl
    have hpos : 0 < numberOfPages.toNat := himage.pos
    refine hzero (himage.free_of_range le_rfl ?_)
    show 0 < 0 + numberOfPages.toNat * 4096
    omega
  rw [if_neg hnonzero] at hresult
  have hreleased : ∀ (status : UInt64) (memory' : M), WritesIn (Free p₀.memoryMap.efiMemoryMap) memory memory' →
      (status, (p₀.setMemoryMap (p₀.memoryMap.publishPages map₁ ⟨imageBase, numberOfPages,
        EFI_MEMORY_LOADER_CODE⟩)).releaseImage imageBase numberOfPages, memory') = result →
      Undone p₀.memoryMap memory result := by
    rintro status memory' hwritten rfl
    exact ⟨releaseImage_published h h₁ himage, hwritten⟩
  -- the pages of the image are written only where they were free
  have hstop := himage.stop_le h.sound
  have hlt := (physicalEndOf (getTotalSize memory)).toNat_lt
  have hrangeStop : (EfiAllocation.mk imageBase numberOfPages EFI_MEMORY_LOADER_CODE).toRange.stop =
      imageBase.toNat + numberOfPages.toNat * 4096 := rfl
  have hlimit : (numberOfPages * EFI_PAGE_SIZE).toNat = numberOfPages.toNat * 4096 := pages_toNat (by omega)
  have hfree : ∀ n, n ≤ numberOfPages.toNat * 4096 → imageBase.toNat + n ≤ 2 ^ 64 ∧
      ∀ x, imageBase.toNat ≤ x → x < imageBase.toNat + n → Free p₀.memoryMap.efiMemoryMap x := by
    intro n hn
    refine ⟨by omega, fun x hlo hhi => himage.free_of_range hlo ?_⟩
    exact lt_of_lt_of_le hhi (Nat.add_le_add_left hn _)
  split at hresult
  · exact hreleased _ _ (.refl memory) hresult
  next hloaded =>
  split at hresult
  · exact hreleased _ _ (.refl memory) hresult
  next memory₁ hcleared =>
  have hzeros : (List.replicate (numberOfPages * EFI_PAGE_SIZE).toNat (0 : UInt8)).length =
      numberOfPages.toNat * 4096 := by rw [List.length_replicate, hlimit]
  have hwritten₁ : WritesIn (Free p₀.memoryMap.efiMemoryMap) memory memory₁ :=
    (WritesIn.refl memory).step hcleared (hzeros ▸ (hfree _ le_rfl).1) (hzeros ▸ (hfree _ le_rfl).2)
  split at hresult
  · exact hreleased _ _ hwritten₁ hresult
  next memory₂ hbytes =>
  rw [not_or, not_or, not_or, not_lt, hlimit] at hloaded
  have hfits := hfree _ hloaded.2.2.1
  have hwritten₂ := hwritten₁.step hbytes hfits.1 hfits.2
  exact undone_registration h hzero h₁ himage (show EFI_MEMORY_LOADER_CODE ≠ EFI_MEMORY_CONVENTIONAL by decide) hwritten₂
    hresult hstatus

/-! ## The rollback -/

/-- **Rolled back**: the memory map and the live allocations, as every service finds them, differ in the map key at
    most; the protocol attachments, the loaded images and the caller's output handle are as before. -/
structure RolledBack (g : EfiHandoffGlobals) (p : IA64ISAPlugin I) (memory : M) (result : UInt64 × IA64ISAPlugin I × M) :
    Prop where
  memoryMap : ∃ key, (ensureEfiMemoryMap g result.2.1 result.2.2).2.memoryMap =
    { (ensureEfiMemoryMap g p memory).2.memoryMap with efiMemoryMapKey := key }
  protocols : SameDatabase p.services result.2.1.services
  outputHandle : readGuestU64 result.2.2 (readCallerOutputRegister p.cpu 5) =
    readGuestU64 memory (readCallerOutputRegister p.cpu 5)

/-- The caller's output handle lies in memory that somebody owns. -/
def OutputHandleOwned (map : List EfiMemoryDescriptor) (p : IA64ISAPlugin I) : Prop :=
  ∀ x, (readCallerOutputRegister p.cpu 5).toNat ≤ x → x < (readCallerOutputRegister p.cpu 5).toNat + 8 → ¬ Free map x

end Services

/-- A call of `LoadImage` from the initial image, with a source buffer and the place for the handle. -/
def loadImageCaller (imageHandleOut : UInt64) : IA64ISAPlugin Unit :=
  newPlugin.setCpu (((((CPUState.reset.setGR 33 EFI_IMAGE_HANDLE).setGR 35 1).setGR 36 1)).setGR 37 imageHandleOut)

/-- An image of one page, filled with zeros. -/
def blankImage : ParsedImage := ⟨0x1000, fun base => (true, List.replicate 0x1000 0, base), 0⟩

end GuideXOS.Isa
