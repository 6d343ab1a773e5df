import GuideXOS.Storage.PELoader

/-!
# `PEBounds` — the loader against the file and the image

Parsing, the entry descriptor and the relocations stay inside whatever the file holds. Mapping does if and only if the
headers are not longer than the image and no sum of a section's offset and size wraps (`loadsSafely_iff`). Every loop runs
over a number of records that a field bounds, so that the load ends.
-/

namespace GuideXOS.Storage.PE
open Lib Lib.Words Lib.Bounds

/-! ## `parse` -/

section Parse
variable {file : List UInt8} {e_lfanew : UInt32}

theorem inBounds_reject {α : Type} : InBounds (reject : Parser α) := inBounds_threw _

theorem reject_ne_ok {α : Type} {a : α} : (reject : Parser α) ≠ .ok a := by
  intro h
  cases h

theorem inBounds_parseDOSHeader : InBounds (parseDOSHeader file) := by
  unfold parseDOSHeader
  split
  · exact inBounds_reject
  · rename_i hlong
    rw [fetch_bind (by omega)]
    dsimp only
    split
    · exact inBounds_reject
    · split
      · exact inBounds_reject
      · exact inBounds_ok _

theorem inBounds_parsePEHeader : InBounds (parsePEHeader file e_lfanew) := by
  unfold parsePEHeader
  split
  · exact inBounds_reject
  · rename_i hlong
    rw [fetch_bind (by omega)]
    split
    · exact inBounds_reject
    · exact inBounds_ok _

theorem inBounds_parseCOFFHeader : InBounds (parseCOFFHeader file e_lfanew) := by
  unfold parseCOFFHeader
  dsimp only
  split
  · exact inBounds_reject
  · rename_i hlong
    rw [fetch_bind (by omega)]
    exact inBounds_ok _

theorem inBounds_parseRelocationDirectory {optOffset : UInt32} {coff : COFFHeader} {numberOfRvaAndSizes : UInt32}
    {info : PEImageInfo} : InBounds (parseRelocationDirectory file optOffset coff numberOfRvaAndSizes info) := by
  unfold parseRelocationDirectory
  dsimp only
  split
  · rename_i hdirectory
    have hlong := hdirectory.2.2
    simp only [baseRelocationDirectoryIndex, dataDirectorySize] at hlong ⊢
    rw [fetch_bind (by omega)]
    exact inBounds_ok _
  · exact inBounds_ok _

theorem inBounds_parseOptionalHeader {coff : COFFHeader} : InBounds (parseOptionalHeader file e_lfanew coff) := by
  unfold parseOptionalHeader
  dsimp only
  split
  · exact inBounds_ok _
  · split
    · exact inBounds_reject
    · rename_i hlong
      rw [fetch_bind (by omega)]
      split
      · exact inBounds_reject
      · exact inBounds_parseRelocationDirectory

theorem inBounds_parseSections {n : Nat} {sectionOffset : UInt32} : InBounds (parseSections file n sectionOffset) := by
  induction n generalizing sectionOffset with
  | zero => exact inBounds_ok _
  | succ n ih =>
      rw [parseSections]
      split
      · exact inBounds_reject
      · rename_i hlong
        rw [fetch_bind (by omega)]
        exact inBounds_bind.mpr ⟨ih, fun _ _ => inBounds_ok _⟩

/-- **Parsing** stays inside the file. -/
theorem inBounds_parse : InBounds (parse file) := by
  unfold parse
  split
  · exact inBounds_reject
  · refine inBounds_bind.mpr ⟨inBounds_parseDOSHeader, fun e_lfanew _ => ?_⟩
    refine inBounds_bind.mpr ⟨inBounds_parsePEHeader, fun _ _ => ?_⟩
    refine inBounds_bind.mpr ⟨inBounds_parseCOFFHeader, fun coff _ => ?_⟩
    refine inBounds_bind.mpr ⟨inBounds_parseOptionalHeader, fun info _ => ?_⟩
    exact inBounds_bind.mpr ⟨inBounds_parseSections, fun _ _ => inBounds_ok _⟩

end Parse

/-! ## `.reloc` -/

/-- An image of `n` bytes. -/
def HasSize (n : Nat) (st : Relocating) : Prop := st.imageBuffer.length = n

section Base
variable {n : Nat} {st : Relocating} {page : UInt32} {delta : UInt64}

theorem returns_relocateEntry {entry : UInt16} (h : HasSize n st) : Returns (HasSize n) (relocateEntry page delta entry st) := by
  have hn : (st.encounter (entry >>> 12).toUInt32).imageBuffer.length = n := by rwa [Relocating.imageBuffer_encounter]
  unfold relocateEntry
  dsimp only
  split
  · exact returns_ok hn
  · split
    · exact returns_ok hn
    · split
      · rename_i hin _
        rw [fetch_bind (by omega)]
        refine returns_bind (returns_store ?_) fun bytes hbytes => returns_ok (hbytes.trans hn)
        rw [length_bytesOfWord]
        omega
      · exact returns_ok hn

theorem returns_relocateEntries {count entryOffset : Nat} (h : HasSize n st) :
    Returns (HasSize n) (relocateEntries page delta count entryOffset st) := by
  induction count generalizing entryOffset st with
  | zero => exact returns_ok h
  | succ count ih =>
      rw [relocateEntries]
      split
      · exact returns_ok h
      · rename_i hin
        rw [fetch_bind (by omega)]
        exact returns_bind (returns_relocateEntry h) fun st' hst' => ih hst'

theorem returns_relocateBlocks {endOffset left offset : Nat} (h : HasSize n st) :
    Returns (HasSize n) (relocateBlocks delta endOffset left offset st) := by
  induction left generalizing offset st with
  | zero => exact returns_ok h
  | succ left ih =>
      rw [relocateBlocks]
      split
      · rename_i hin
        rw [fetch_bind hin.2]
        dsimp only
        split
        · exact returns_ok h
        · split
          · exact returns_ok h
          · exact returns_bind (returns_relocateEntries h) fun st' hst' => ih hst'
      · exact returns_ok h

theorem returns_applyPEBaseRelocations {relocSection : PESectionInfo} (h : HasSize n st) :
    Returns (fun r => HasSize n r.2) (applyPEBaseRelocations relocSection delta st) := by
  unfold applyPEBaseRelocations
  split
  · exact returns_ok h
  · have hstart : HasSize n { st with relocationCount := 0 } := h
    exact returns_bind (returns_relocateBlocks hstart) fun st' hst' => returns_ok hst'

end Base

/-! ## `.rela` -/

/-- An image that the descriptors appended so far have grown to at most `2 ^ 34 + 16 * i` bytes, and where the next one
    goes. -/
structure Grown (i : Nat) (functionDescriptorRVA : UInt64) (st : Relocating) : Prop where
  next : functionDescriptorRVA.toNat ≤ 2 ^ 34 + 16 * i
  size : st.imageBuffer.length ≤ 2 ^ 34 + 16 * i

section Rela
variable {info : PEImageInfo} {loadAddress globalPointer : UInt64} {rela : ELFRelaEntry} {i : Nat}
  {functionDescriptorRVA : UInt64} {st : Relocating}

section
variable (h : Grown i functionDescriptorRVA st)
include h

theorem Grown.succ : Grown (i + 1) functionDescriptorRVA st := by
  have hnext := h.next
  have hsize := h.size
  exact ⟨by omega, by omega⟩

theorem Grown.error : Grown i functionDescriptorRVA st.error := ⟨h.next, h.size⟩

theorem Grown.encounter (type : UInt32) : Grown i functionDescriptorRVA (st.encounter type) :=
  ⟨h.next, by rw [Relocating.imageBuffer_encounter]; exact h.size⟩

/-- The end of a word that starts in the image does not wrap. -/
theorem Grown.end_toNat (hi : i < 2 ^ 32)
    (hin : rela.offset.toNat < st.imageBuffer.length) : (rela.offset + 8).toNat = rela.offset.toNat + 8 := by
  have hsize := h.size
  rw [UInt64.toNat_add]
  exact Nat.mod_eq_of_lt (show rela.offset.toNat + 8 < 2 ^ 64 by omega)

end

theorem returns_relocateWord {newValue : UInt64 → UInt64} (h : Grown i functionDescriptorRVA st) (hi : i < 2 ^ 32)
    (hin : rela.offset.toNat < st.imageBuffer.length) :
    Returns (Grown i functionDescriptorRVA) (relocateWord rela newValue st) := by
  have hsize := h.size
  unfold relocateWord
  rw [h.end_toNat hi hin]
  split
  · rename_i hword
    rw [fetch_bind hword]
    refine returns_bind (returns_store ?_) fun bytes hbytes => returns_ok ⟨h.next, ?_⟩
    · rwa [length_bytesOfWord]
    · rw [Relocating.imageBuffer_applied, hbytes]
      exact hsize
  · exact returns_ok ⟨h.next, hsize⟩

/-- A buffer grown for a descriptor is as long as the end of the descriptor needs, and not longer than it was else. -/
theorem length_resize (bytes : List UInt8) (n : Nat) : (resize bytes n).length = max bytes.length n := by
  unfold resize
  rw [List.length_append, List.length_replicate]
  omega

/-- A symbol with an index below the number of entries is in its section as a whole. -/
theorem symbol_inside {dynsym : PESectionInfo} {symbol : UInt32}
    (h : symbol.toUInt64 < dynsym.virtualSize / UInt64.ofNat dynSymEntrySize) :
    (dynsym.virtualAddress + symbol.toUInt64 * UInt64.ofNat dynSymEntrySize).toNat + dynSymEntrySize ≤
      (dynsym.virtualAddress + dynsym.virtualSize).toNat := by
  have hva := dynsym.virtualAddress_lt
  have hvs := dynsym.virtualSize_lt
  have hindex : symbol.toUInt64.toNat < dynsym.virtualSize.toNat / 24 := by
    rw [UInt64.lt_iff_toNat_lt, UInt64.toNat_div] at h
    exact h
  have hoffset : (symbol.toUInt64 * UInt64.ofNat dynSymEntrySize).toNat = symbol.toUInt64.toNat * 24 := by
    rw [UInt64.toNat_mul]
    exact Nat.mod_eq_of_lt (show symbol.toUInt64.toNat * 24 < 2 ^ 64 by omega)
  have hsym : (dynsym.virtualAddress + symbol.toUInt64 * UInt64.ofNat dynSymEntrySize).toNat =
      dynsym.virtualAddress.toNat + symbol.toUInt64.toNat * 24 := by
    rw [UInt64.toNat_add, hoffset]
    exact Nat.mod_eq_of_lt (by omega)
  have hend : (dynsym.virtualAddress + dynsym.virtualSize).toNat =
      dynsym.virtualAddress.toNat + dynsym.virtualSize.toNat := by
    rw [UInt64.toNat_add]
    exact Nat.mod_eq_of_lt (by omega)
  rw [hsym, hend]
  unfold dynSymEntrySize
  omega

/-- Behind a descriptor there is place for the next one. -/
theorem returns_relocateDescriptor (h : Grown i functionDescriptorRVA st) (hi : i < 2 ^ 32)
    (hin : rela.offset.toNat < st.imageBuffer.length) :
    Returns (fun r => Grown (i + 1) r.1 r.2)
      (relocateDescriptor info loadAddress globalPointer rela functionDescriptorRVA st) := by
  have hsize := h.size
  have hnext := h.next
  have hend16 : (functionDescriptorRVA + 16).toNat = functionDescriptorRVA.toNat + 16 := by
    rw [UInt64.toNat_add]
    exact Nat.mod_eq_of_lt (show functionDescriptorRVA.toNat + 16 < 2 ^ 64 by omega)
  have hend8 : (functionDescriptorRVA + 8).toNat = functionDescriptorRVA.toNat + 8 := by
    rw [UInt64.toNat_add]
    exact Nat.mod_eq_of_lt (show functionDescriptorRVA.toNat + 8 < 2 ^ 64 by omega)
  unfold relocateDescriptor
  split
  · exact returns_ok h.succ.error
  · rename_i dynsym _
    split
    · rename_i hinside
      obtain ⟨hword, hdynsym, hindex⟩ := hinside
      have hsym := symbol_inside hindex
      rw [h.end_toNat hi hin] at hword
      dsimp only
      rw [fetch_bind (by omega), fetch_bind hword]
      have hlength := length_resize st.imageBuffer (functionDescriptorRVA + 16).toNat
      rw [hend16] at hlength ⊢
      rw [hend8]
      refine returns_bind (returns_store ?_) fun first hfirst => ?_
      · rw [length_bytesOfWord]
        omega
      refine returns_bind (returns_store ?_) fun second hsecond => ?_
      · rw [length_bytesOfWord]
        omega
      refine returns_bind (returns_store ?_) fun third hthird => returns_ok ⟨?_, ?_⟩
      · rw [length_bytesOfWord]
        omega
      · rw [hend16]
        omega
      · rw [Relocating.imageBuffer_applied]
        omega
    · exact returns_ok h.succ.error

theorem returns_relocateRecord (h : Grown i functionDescriptorRVA st) (hi : i < 2 ^ 32) :
    Returns (fun r => Grown (i + 1) r.1 r.2)
      (relocateRecord info loadAddress globalPointer rela functionDescriptorRVA st) := by
  have hmet := h.encounter rela.type
  have hword : ∀ newValue, rela.offset.toNat < (st.encounter rela.type).imageBuffer.length →
      Returns (fun r => Grown (i + 1) r.1 r.2)
        ((relocateWord rela newValue (st.encounter rela.type)).map (functionDescriptorRVA, ·)) := by
    intro newValue hin
    exact returns_map (returns_relocateWord hmet hi hin) fun st' hst' => hst'.succ
  unfold relocateRecord
  dsimp only
  split
  · exact returns_ok hmet.succ
  · split
    · exact returns_ok hmet.succ.error
    · rename_i hin
      have hin' := Nat.lt_of_not_ge hin
      split
      · exact hword _ hin'
      · split
        · exact hword _ hin'
        · split
          · exact returns_relocateDescriptor hmet hi hin'
          · split
            · exact hword _ hin'
            · split
              · exact hword _ hin'
              · exact returns_ok hmet.succ.error

theorem returns_relocateRecords {count entryOffset : Nat} (h : Grown i functionDescriptorRVA st) (hi : i + count < 2 ^ 32) :
    Returns (fun _ => True) (relocateRecords info loadAddress globalPointer count entryOffset functionDescriptorRVA st) := by
  induction count generalizing i entryOffset functionDescriptorRVA st with
  | zero => exact returns_ok trivial
  | succ count ih =>
      rw [relocateRecords]
      split
      · exact returns_ok trivial
      · rename_i hin
        rw [fetch_bind (by omega)]
        exact returns_bind (returns_relocateRecord h (by omega)) fun next hnext => ih hnext (by omega)

theorem memoryEnd_toNat_lt (s : PESectionInfo) : s.memoryEnd.toNat < 2 ^ 33 := by
  have hva := s.virtualAddress_lt
  have hvs := s.virtualSize_lt
  have hraw := toUInt64_lt s.rawDataSize
  unfold PESectionInfo.memoryEnd
  rw [UInt64.toNat_add]
  split <;> omega

/-- The first descriptor is not far behind the sections. -/
theorem firstDescriptor_toNat_lt (info : PEImageInfo) : (firstDescriptor info).toNat < 2 ^ 34 := by
  have hfold : ∀ (sections : List PESectionInfo) (high : UInt64), high.toNat < 2 ^ 33 →
      (sections.foldl (fun high s => if high < s.memoryEnd then s.memoryEnd else high) high).toNat < 2 ^ 33 := by
    intro sections
    induction sections with
    | nil => exact fun _ hhigh => hhigh
    | cons s sections ih =>
        intro high hhigh
        refine ih _ ?_
        dsimp only
        split
        · exact memoryEnd_toNat_lt s
        · exact hhigh
  have hhigh := hfold info.sections 0 (by simp)
  unfold firstDescriptor
  rw [UInt64.toNat_and]
  refine Nat.lt_of_le_of_lt Nat.and_le_left ?_
  rw [UInt64.toNat_add]
  exact Nat.lt_of_le_of_lt (Nat.mod_le _ _) (show _ + 15 < 2 ^ 34 by omega)

theorem returns_applyELFRelocations {relaSection : PESectionInfo} (h : st.imageBuffer.length ≤ 2 ^ 34) :
    Returns (fun _ => True) (applyELFRelocations info loadAddress globalPointer relaSection st) := by
  have hvs := relaSection.virtualSize_lt
  have hfirst := firstDescriptor_toNat_lt info
  unfold applyELFRelocations
  split
  · exact returns_ok trivial
  · have hgrown : Grown 0 (firstDescriptor info) { st with relocationCount := 0 } := ⟨by omega, by simpa using h⟩
    refine returns_bind (returns_relocateRecords hgrown ?_) fun st' _ => returns_ok trivial
    rw [Nat.zero_add]
    exact Nat.lt_of_le_of_lt (Nat.div_le_self _ _) hvs

end Rela

/-! ## `applyRelocations` -/

section Both
variable {info : PEImageInfo} {loadAddress globalPointer : UInt64} {n : Nat} {st : Relocating}

theorem returns_baseStep (h : HasSize n st) : Returns (fun r => HasSize n r.2.2) (baseStep info loadAddress st) := by
  unfold baseStep
  dsimp only
  split
  · split
    · exact returns_ok h
    · exact returns_map (returns_applyPEBaseRelocations h) fun r hr => hr
  · exact returns_ok h

theorem inBounds_recordStep (h : HasSize n st) (hn : n ≤ 2 ^ 34) :
    InBounds (recordStep info loadAddress globalPointer st) := by
  unfold recordStep
  split
  · split
    · exact inBounds_ok _
    · exact inBounds_map.mpr (returns_applyELFRelocations (Nat.le_trans (Nat.le_of_eq h) hn)).1
  · exact inBounds_ok _

/-- **Relocating** stays inside the image, and inside what it appends to it. -/
theorem inBounds_applyRelocations {imageBuffer : List UInt8} (h : imageBuffer.length ≤ 2 ^ 34) :
    InBounds (applyRelocations info loadAddress globalPointer imageBuffer) := by
  have hsize : HasSize imageBuffer.length ({ imageBuffer := imageBuffer } : Relocating) := rfl
  have hbase : Returns (fun r => HasSize imageBuffer.length r.2.2) (baseStep info loadAddress { imageBuffer := imageBuffer }) :=
    returns_baseStep hsize
  unfold applyRelocations
  refine inBounds_bind.mpr ⟨hbase.1, fun base hok => ?_⟩
  exact inBounds_bind.mpr ⟨inBounds_recordStep (hbase.2 base hok) h, fun _ _ => inBounds_ok _⟩

end Both

/-! ## The mapping -/

/-- The loop that maps the sections goes on behind a section. -/
def PESectionInfo.Passed (file : List UInt8) (sizeOfImage : UInt32) (s : PESectionInfo) : Prop :=
  s.rawDataSize = 0 ∨ s.rawDataPasses file ∧ s.memoryPasses sizeOfImage

/-- The raw data of a section is in the file. -/
def PESectionInfo.RawDataInside (file : List UInt8) (s : PESectionInfo) : Prop :=
  s.rawDataOffset.toNat + s.rawDataSize.toNat ≤ file.length

/-- Every section that the loop comes to, and whose checks pass, has its raw data in the file: the sum of 32 bits that was
    compared has not wrapped to a smaller one. -/
def SectionsFit (file : List UInt8) (sizeOfImage : UInt32) (sections : List PESectionInfo) : Prop :=
  ∀ before s after, sections = before ++ s :: after → (∀ t ∈ before, t.Passed file sizeOfImage) →
    s.rawDataSize ≠ 0 → s.rawDataPasses file → s.memoryPasses sizeOfImage → s.RawDataInside file

/-- **What the copies need**: headers that are in the file are not longer than the image, and the sections fit. -/
structure CopiesFit (file : List UInt8) (info : PEImageInfo) : Prop where
  headers : info.sizeOfHeaders.toNat ≤ file.length → info.sizeOfHeaders.toNat ≤ info.sizeOfImage.toNat
  sections : info.sizeOfHeaders.toNat ≤ file.length → SectionsFit file info.sizeOfImage info.sections

section Mapping
variable {file : List UInt8} {sizeOfImage : UInt32} {s : PESectionInfo} {sections : List PESectionInfo}
  {imageBuffer : List UInt8}

theorem sectionsFit_nil : SectionsFit file sizeOfImage [] := by
  intro before s after happend
  simp at happend

/-- The sections behind the first one count only if the loop goes on. -/
theorem sectionsFit_cons : SectionsFit file sizeOfImage (s :: sections) ↔
    (s.rawDataSize ≠ 0 → s.rawDataPasses file → s.memoryPasses sizeOfImage → s.RawDataInside file) ∧
      (s.Passed file sizeOfImage → SectionsFit file sizeOfImage sections) := by
  constructor
  · intro h
    refine ⟨h [] s sections rfl (by simp), fun hpassed before t after happend hbefore => ?_⟩
    refine h (s :: before) t after (by rw [happend]; rfl) fun u hu => ?_
    rcases List.mem_cons.mp hu with rfl | hu
    · exact hpassed
    · exact hbefore u hu
  · rintro ⟨hfirst, hrest⟩ before t after happend hbefore
    cases before with
    | nil =>
        obtain ⟨rfl, rfl⟩ := List.cons.inj happend
        exact hfirst
    | cons u before =>
        obtain ⟨rfl, rfl⟩ := List.cons.inj happend
        exact hrest (hbefore _ (by simp)) before t after rfl fun v hv => hbefore v (by simp [hv])

/-- The end in memory of a section that passes is in the image. -/
theorem memory_inside (h : s.memoryPasses sizeOfImage) :
    s.virtualAddress.toNat + max s.virtualSize.toNat s.rawDataSize.toNat ≤ sizeOfImage.toNat := by
  have hva := s.virtualAddress_lt
  have hvs := s.virtualSize_lt
  have hraw := s.rawDataSize.toNat_lt
  unfold PESectionInfo.memoryPasses PESectionInfo.memoryEnd at h
  rw [UInt64.le_iff_toNat_le, UInt64.toNat_add, UInt32.toNat_toUInt64] at h
  split at h
  · rename_i hlt
    rw [UInt64.lt_iff_toNat_lt, UInt32.toNat_toUInt64] at hlt
    rw [UInt32.toNat_toUInt64, Nat.mod_eq_of_lt (by omega)] at h
    omega
  · rename_i hge
    rw [UInt64.lt_iff_toNat_lt, UInt32.toNat_toUInt64] at hge
    rw [Nat.mod_eq_of_lt (by omega)] at h
    omega

/-- A copy between the file and the image, neither of which it leaves. -/
theorem copy_eq (hraw : s.RawDataInside file) (hmemory : s.memoryPasses sizeOfImage)
    (hlength : imageBuffer.length = sizeOfImage.toNat) :
    ∃ imageBuffer' : List UInt8, imageBuffer'.length = sizeOfImage.toNat ∧
      ∀ f : List UInt8 → Parser (List UInt8),
        (fetch file s.rawDataOffset.toNat s.rawDataSize.toNat >>= fun data =>
          store imageBuffer s.virtualAddress.toNat data >>= f) = f imageBuffer' := by
  have hmem := memory_inside hmemory
  have hdata : ((file.drop s.rawDataOffset.toNat).take s.rawDataSize.toNat).length = s.rawDataSize.toNat :=
    Patches.length_part hraw
  have hfits : s.virtualAddress.toNat + ((file.drop s.rawDataOffset.toNat).take s.rawDataSize.toNat).length ≤
      imageBuffer.length := by omega
  refine ⟨_, (length_of_store (@store_ok Rejected _ _ _ hfits)).trans hlength, fun f => ?_⟩
  rw [fetch_bind hraw, store_ok hfits]
  rfl

/-- **The loop that maps the sections** is in bounds exactly if they fit. -/
theorem inBounds_mapSections (hlength : imageBuffer.length = sizeOfImage.toNat) :
    InBounds (mapSections file sizeOfImage sections imageBuffer) ↔ SectionsFit file sizeOfImage sections := by
  induction sections generalizing imageBuffer with
  | nil => exact iff_of_true (inBounds_ok _) sectionsFit_nil
  | cons s sections ih =>
      rw [mapSections, sectionsFit_cons]
      split
      · rename_i hempty
        rw [ih hlength]
        exact ⟨fun h => ⟨fun hsize => absurd hempty hsize, fun _ => h⟩, fun h => h.2 (.inl hempty)⟩
      · rename_i hsize
        split
        · rename_i hraw
          refine iff_of_true inBounds_reject ⟨fun _ hpasses => absurd hpasses hraw, fun hpassed => ?_⟩
          exact absurd (hpassed.resolve_left hsize).1 hraw
        · rename_i hraw
          split
          · rename_i hmemory
            refine iff_of_true inBounds_reject ⟨fun _ _ hpasses => absurd hpasses hmemory, fun hpassed => ?_⟩
            exact absurd (hpassed.resolve_left hsize).2 hmemory
          · rename_i hmemory
            rw [Decidable.not_not] at hraw hmemory
            by_cases hinside : s.RawDataInside file
            · obtain ⟨imageBuffer', hlength', hcopy⟩ := copy_eq hinside hmemory hlength
              rw [hcopy, ih hlength']
              exact ⟨fun h => ⟨fun _ _ _ => hinside, fun _ => h⟩, fun h => h.2 (.inr ⟨hraw, hmemory⟩)⟩
            · refine iff_of_false (fun h => ?_) fun h => hinside (h.1 hsize hraw hmemory)
              rcases inBounds_fetch.mp (inBounds_bind.mp h).1 with hzero | hfile
              · exact hsize (UInt32.toNat_inj.mp hzero)
              · exact hinside hfile

/-- What a mapped section has passed. -/
structure PESectionInfo.Inside (file : List UInt8) (sizeOfImage : UInt32) (s : PESectionInfo) : Prop where
  rawData : s.RawDataInside file
  memory : s.virtualAddress.toNat + max s.virtualSize.toNat s.rawDataSize.toNat ≤ sizeOfImage.toNat

/-- The mapped image has its size, and every section with raw data has them in the file and its memory in the image. -/
theorem of_mapSections (hlength : imageBuffer.length = sizeOfImage.toNat) {imageBuffer' : List UInt8}
    (h : mapSections file sizeOfImage sections imageBuffer = .ok imageBuffer') :
    imageBuffer'.length = sizeOfImage.toNat ∧ ∀ s ∈ sections, s.rawDataSize ≠ 0 → s.Inside file sizeOfImage := by
  induction sections generalizing imageBuffer with
  | nil =>
      obtain rfl := Except.ok.inj h
      exact ⟨hlength, by simp⟩
  | cons s sections ih =>
      rw [mapSections] at h
      split at h
      · rename_i hempty
        obtain ⟨hlength', hall⟩ := ih hlength h
        refine ⟨hlength', fun t ht hsize => ?_⟩
        rcases List.mem_cons.mp ht with rfl | ht
        · exact absurd hempty hsize
        · exact hall t ht hsize
      · rename_i hsize
        split at h
        · exact absurd h reject_ne_ok
        · split at h
          · exact absurd h reject_ne_ok
          · rename_i hmemory
            rw [Decidable.not_not] at hmemory
            have hinside : s.RawDataInside file := by
              rcases inBounds_fetch.mp (inBounds_bind.mp (by rw [h]; exact inBounds_ok _)).1 with hzero | hfile
              · exact absurd (UInt32.toNat_inj.mp hzero) hsize
              · exact hfile
            obtain ⟨imageBuffer'', hlength'', hcopy⟩ := copy_eq hinside hmemory hlength
            rw [hcopy] at h
            obtain ⟨hlength', hall⟩ := ih hlength'' h
            refine ⟨hlength', fun t ht hsize => ?_⟩
            rcases List.mem_cons.mp ht with rfl | ht
            · exact ⟨hinside, memory_inside hmemory⟩
            · exact hall t ht hsize

/-- Headers that are in the file are copied if and only if they are not longer than the image. -/
theorem inBounds_mapImage {info : PEImageInfo} : InBounds (mapImage file info) ↔ CopiesFit file info := by
  unfold mapImage
  split
  · rename_i hlong
    exact iff_of_true inBounds_reject ⟨fun h => absurd hlong (by omega), fun h => absurd hlong (by omega)⟩
  · rename_i hlong
    have hfile : info.sizeOfHeaders.toNat ≤ file.length := Nat.le_of_not_gt hlong
    have hheaders : ((file.drop 0).take info.sizeOfHeaders.toNat).length = info.sizeOfHeaders.toNat :=
      Patches.length_part (by omega)
    have hempty : (List.replicate info.sizeOfImage.toNat (0 : UInt8)).length = info.sizeOfImage.toNat :=
      List.length_replicate
    rw [fetch_bind (by omega)]
    by_cases hfit : info.sizeOfHeaders.toNat ≤ info.sizeOfImage.toNat
    · have hstored : 0 + ((file.drop 0).take info.sizeOfHeaders.toNat).length ≤
          (List.replicate info.sizeOfImage.toNat (0 : UInt8)).length := by omega
      have hlength := (length_of_store (@store_ok Rejected _ _ _ hstored)).trans hempty
      rw [store_ok hstored]
      refine (inBounds_mapSections hlength).trans ⟨fun h => ⟨fun _ => hfit, fun _ => h⟩, fun h => h.sections hfile⟩
    · refine iff_of_false (fun h => ?_) fun h => hfit (h.headers hfile)
      rcases inBounds_store.mp (inBounds_bind.mp h).1 with hnil | hin
      · rw [hnil] at hheaders
        exact hfit (by rw [← hheaders]; exact Nat.zero_le _)
      · omega

/-- What a mapped image has passed. -/
theorem of_mapImage {info : PEImageInfo} {mapped : List UInt8} (h : mapImage file info = .ok mapped) :
    mapped.length = info.sizeOfImage.toNat ∧ info.sizeOfHeaders.toNat ≤ file.length ∧
      info.sizeOfHeaders.toNat ≤ info.sizeOfImage.toNat ∧
      ∀ s ∈ info.sections, s.rawDataSize ≠ 0 → s.Inside file info.sizeOfImage := by
  have hfit := inBounds_mapImage.mp (by rw [h]; exact inBounds_ok _)
  unfold mapImage at h
  split at h
  · exact absurd h reject_ne_ok
  · rename_i hlong
    have hfile : info.sizeOfHeaders.toNat ≤ file.length := Nat.le_of_not_gt hlong
    obtain ⟨headers, _, h⟩ := Fallible.bind_eq_ok.mp h
    obtain ⟨imageBuffer, hstore, h⟩ := Fallible.bind_eq_ok.mp h
    have hlength := (length_of_store hstore).trans List.length_replicate
    obtain ⟨hmapped, hall⟩ := of_mapSections hlength h
    exact ⟨hmapped, hfile, hfit.headers hfile, hall⟩

end Mapping

/-! ## The entry point -/

section Entry
variable {info : PEImageInfo} {loadAddress entryPointRVA : UInt64} {imageBuffer : List UInt8}

/-- An address that a section covers is far below `2 ^ 64`. -/
theorem toNat_lt_of_covers {s : PESectionInfo} (h : s.covers entryPointRVA = true) : entryPointRVA.toNat < 2 ^ 33 := by
  have hva := s.virtualAddress_lt
  have hvs := s.virtualSize_lt
  have hbelow := (of_decide_eq_true h).2
  rw [UInt64.lt_iff_toNat_lt, UInt64.toNat_add] at hbelow
  have hle := Nat.mod_le (s.virtualAddress.toNat + s.virtualSize.toNat) (2 ^ 64)
  omega

theorem inBounds_entryDescriptor (h : entryPointRVA.toNat < 2 ^ 33) :
    InBounds (entryDescriptor info loadAddress imageBuffer entryPointRVA) := by
  have h8 : (entryPointRVA + 8).toNat = entryPointRVA.toNat + 8 := by
    rw [UInt64.toNat_add]
    exact Nat.mod_eq_of_lt (show entryPointRVA.toNat + 8 < 2 ^ 64 by omega)
  have h16 : (entryPointRVA + 16).toNat = entryPointRVA.toNat + 16 := by
    rw [UInt64.toNat_add]
    exact Nat.mod_eq_of_lt (show entryPointRVA.toNat + 16 < 2 ^ 64 by omega)
  unfold entryDescriptor
  rw [h8, h16]
  split
  · rename_i hcode
    rw [fetch_bind hcode]
    dsimp only
    split
    · split
      · rename_i hglobal
        rw [fetch_bind (by omega)]
        exact inBounds_ok _
      · exact inBounds_ok _
    · exact inBounds_ok _
  · exact inBounds_ok _

theorem inBounds_findEntry : InBounds (findEntry info loadAddress imageBuffer) := by
  unfold findEntry
  dsimp only
  split
  · exact inBounds_reject
  · rename_i s hs
    split
    · exact inBounds_ok _
    · exact inBounds_entryDescriptor (toNat_lt_of_covers (List.find?_some (p := fun t : PESectionInfo => t.covers (info.entryPoint - info.imageBase)) hs))

/-- The entry point of an accepted image is in a section. -/
theorem of_findEntry {entry : UInt64 × Option UInt64} (h : findEntry info loadAddress imageBuffer = .ok entry) :
    ∃ s ∈ info.sections, s.covers (info.entryPoint - info.imageBase) = true := by
  unfold findEntry at h
  dsimp only at h
  split at h
  · exact absurd h reject_ne_ok
  · rename_i s hs
    refine ⟨s, List.mem_of_find?_eq_some hs, ?_⟩
    exact List.find?_some (p := fun t : PESectionInfo => t.covers (info.entryPoint - info.imageBase)) hs

theorem inBounds_dumpMemoryAtEntryPoint : InBounds (dumpMemoryAtEntryPoint imageBuffer entryPointRVA) := by
  unfold dumpMemoryAtEntryPoint
  split
  · exact inBounds_ok _
  · rename_i hin
    rw [inBounds_map, inBounds_fetch]
    omega

theorem inBounds_finishImage (h : imageBuffer.length ≤ 2 ^ 34) : InBounds (finishImage info loadAddress imageBuffer) := by
  unfold finishImage
  refine inBounds_bind.mpr ⟨inBounds_findEntry, fun entry _ => ?_⟩
  refine inBounds_bind.mpr ⟨inBounds_dumpMemoryAtEntryPoint, fun _ _ => ?_⟩
  exact inBounds_bind.mpr ⟨inBounds_applyRelocations h, fun _ _ => inBounds_ok _⟩

end Entry

/-! ## The end of the table -/

/-- **The loop over the blocks ends by itself**: a table has no more blocks than bytes, and more turns change nothing. -/
theorem relocateBlocks_ends {delta : UInt64} {endOffset left more offset : Nat} {st : Relocating}
    (h : endOffset - offset ≤ left) :
    relocateBlocks delta endOffset (left + more) offset st = relocateBlocks delta endOffset left offset st := by
  induction left generalizing offset st with
  | zero =>
      cases more with
      | zero => rfl
      | succ more =>
          rw [Nat.zero_add]
          show relocateBlocks delta endOffset (more + 1) offset st = .ok st
          rw [relocateBlocks, if_neg (by omega)]
  | succ left ih =>
      rw [Nat.add_right_comm, relocateBlocks, relocateBlocks]
      split
      · congr 1
        funext block
        dsimp only
        split
        · rfl
        · split
          · rfl
          · rename_i hsize
            congr 1
            funext st'
            refine ih ?_
            unfold blockHeaderSize at hsize
            omega
      · rfl

/-! ## The load -/

/-- An image whose headers and sections are in the file and in the image, and whose entry point is in a section. -/
structure WellFormed (file : List UInt8) (info : PEImageInfo) : Prop where
  dosHeader : dosHeaderSize ≤ file.length ∧ wordAt file 0 2 = 0x5A4D
  peHeader : ∃ e_lfanew, 0 < e_lfanew ∧ e_lfanew + peHeaderSize ≤ file.length ∧
    wordAt file e_lfanew 4 = 0x00004550
  headers : info.sizeOfHeaders.toNat ≤ file.length ∧ info.sizeOfHeaders.toNat ≤ info.sizeOfImage.toNat
  sections : ∀ s ∈ info.sections, s.rawDataSize ≠ 0 → s.Inside file info.sizeOfImage
  entryPoint : ∃ s ∈ info.sections, s.covers (info.entryPoint - info.imageBase) = true

/-- **The load is safe**: it stays inside its buffers, the loop over the blocks ends by itself, and what is not well formed
    is rejected. Relocations that fail are an image that is not `relocated`. -/
structure LoadsSafely (file : List UInt8) (requestedLoadAddress : UInt64) : Prop where
  inBounds : InBounds (parseAndLoad file requestedLoadAddress)
  ends : ∀ info relocSection delta more st, parse file = .ok info → info.findSectionByName relocName = some relocSection →
    relocateBlocks delta (relocSection.virtualAddress.toNat + relocSection.virtualSize.toNat)
        (relocSection.virtualSize.toNat + more) relocSection.virtualAddress.toNat st =
      relocateBlocks delta (relocSection.virtualAddress.toNat + relocSection.virtualSize.toNat)
        relocSection.virtualSize.toNat relocSection.virtualAddress.toNat st
  accepted : ∀ image, parseAndLoad file requestedLoadAddress = .ok image →
    (∃ info, parse file = .ok info ∧ WellFormed file info) ∧
      (image.relocated = true → image.relocating.relocationErrors = 0)

variable {file : List UInt8}

/-- A field of a header is that part of the file. -/
theorem wordAt_part {start n offset k : Nat} (h : offset + k ≤ n) :
    wordAt (Patches.part file start n) offset k = wordAt file (start + offset) k :=
  congrArg wordOfBytes (Patches.part_part file h)

/-- The offset of the PE header comes from a DOS header with its signature. -/
theorem of_parseDOSHeader {e_lfanew : UInt32} (h : parseDOSHeader file = .ok e_lfanew) :
    wordAt file 0 2 = 0x5A4D ∧ 0 < e_lfanew.toNat := by
  unfold parseDOSHeader at h
  split at h
  · exact absurd h reject_ne_ok
  · rename_i hlong
    rw [fetch_bind (by omega)] at h
    dsimp only at h
    split at h
    · exact absurd h reject_ne_ok
    · rename_i hmagic
      split at h
      · exact absurd h reject_ne_ok
      · rename_i hoffset
        obtain rfl := Except.ok.inj h
        refine ⟨?_, Nat.pos_of_ne_zero fun hzero => hoffset (.inl (UInt32.toNat_inj.mp hzero))⟩
        have hword : wordAt (Patches.part file 0 dosHeaderSize) 0 2 = wordAt file (0 + 0) 2 := wordAt_part (by decide)
        exact hword.symm.trans (Decidable.not_not.mp hmagic)

theorem of_parsePEHeader {e_lfanew : UInt32} (h : parsePEHeader file e_lfanew = .ok ()) :
    e_lfanew.toNat + peHeaderSize ≤ file.length ∧ wordAt file e_lfanew.toNat 4 = 0x00004550 := by
  unfold parsePEHeader at h
  split at h
  · exact absurd h reject_ne_ok
  · rename_i hlong
    rw [fetch_bind (by omega)] at h
    split at h
    · exact absurd h reject_ne_ok
    · rename_i hmagic
      exact ⟨Nat.le_of_not_gt hlong, Decidable.not_not.mp hmagic⟩

/-- The two signatures of a file that is parsed. -/
theorem of_parse {info : PEImageInfo} (h : parse file = .ok info) :
    (dosHeaderSize ≤ file.length ∧ wordAt file 0 2 = 0x5A4D) ∧
      ∃ e_lfanew, 0 < e_lfanew ∧ e_lfanew + peHeaderSize ≤ file.length ∧ wordAt file e_lfanew 4 = 0x00004550 := by
  unfold parse at h
  split at h
  · exact absurd h reject_ne_ok
  · rename_i hlong
    obtain ⟨e_lfanew, hdos, h⟩ := Fallible.bind_eq_ok.mp h
    obtain ⟨_, hpe, -⟩ := Fallible.bind_eq_ok.mp h
    obtain ⟨hmagic, hpositive⟩ := of_parseDOSHeader hdos
    exact ⟨⟨Nat.le_of_not_lt hlong, hmagic⟩, e_lfanew.toNat, hpositive, of_parsePEHeader hpe⟩

/-- Relocations that succeed have met no error. -/
theorem relocationErrors_of_success {info : PEImageInfo} {loadAddress globalPointer : UInt64} {imageBuffer : List UInt8}
    {result : Bool × Relocating} (h : applyRelocations info loadAddress globalPointer imageBuffer = .ok result)
    (hsuccess : result.1 = true) : result.2.relocationErrors = 0 := by
  obtain ⟨base, -, h⟩ := Fallible.bind_eq_ok.mp h
  obtain ⟨record, -, h⟩ := Fallible.bind_eq_ok.mp h
  obtain rfl := Except.ok.inj h
  simp only [Bool.and_eq_true, decide_eq_true_eq] at hsuccess
  exact hsuccess.2

/-- **The load is safe exactly if the copies fit.** -/
theorem loadsSafely_iff (file : List UInt8) (requestedLoadAddress : UInt64) :
    LoadsSafely file requestedLoadAddress ↔ ∀ info, parse file = .ok info → CopiesFit file info := by
  constructor
  · intro h info hparse
    have hload := (inBounds_bind.mp h.inBounds).2 info hparse
    exact inBounds_mapImage.mp (inBounds_bind.mp hload).1
  · intro h
    refine ⟨?_, fun info relocSection delta more st _ _ => relocateBlocks_ends (by omega), fun image himage => ?_⟩
    · refine inBounds_bind.mpr ⟨inBounds_parse, fun info hparse => ?_⟩
      refine inBounds_bind.mpr ⟨inBounds_mapImage.mpr (h info hparse), fun mapped hmapped => ?_⟩
      refine inBounds_finishImage ?_
      rw [(of_mapImage hmapped).1]
      exact Nat.le_trans (Nat.le_of_lt info.sizeOfImage.toNat_lt) (by omega)
    · obtain ⟨info, hparse, hload⟩ := Fallible.bind_eq_ok.mp himage
      obtain ⟨mapped, hmapped, hfinish⟩ := Fallible.bind_eq_ok.mp hload
      obtain ⟨entry, hentry, hfinish⟩ := Fallible.bind_eq_ok.mp hfinish
      obtain ⟨_, _, hfinish⟩ := Fallible.bind_eq_ok.mp hfinish
      obtain ⟨relocations, hrelocations, hfinish⟩ := Fallible.bind_eq_ok.mp hfinish
      obtain rfl := Except.ok.inj hfinish
      obtain ⟨hdos, hpe⟩ := of_parse hparse
      obtain ⟨_, hheaders, hheaders', hsections⟩ := of_mapImage hmapped
      refine ⟨⟨info, hparse, hdos, hpe, ⟨hheaders, hheaders'⟩, hsections, of_findEntry hentry⟩, ?_⟩
      exact relocationErrors_of_success hrelocations

/-- Headers of two bytes in an image of one. -/
@[irreducible] def longHeaders : List UInt8 :=
  bytesOfWord 2 0x5A4D ++ List.replicate 58 0 ++ bytesOfWord 4 64 ++
    bytesOfWord 4 0x00004550 ++
    bytesOfWord 2 0x200 ++ List.replicate 14 0 ++ bytesOfWord 2 112 ++ List.replicate 2 0 ++
    bytesOfWord 2 0x20B ++ List.replicate 54 0 ++ bytesOfWord 4 1 ++ bytesOfWord 4 2 ++ List.replicate 48 0

/-- **The header copy leaves the image.** -/
theorem headersLeaveImage : ¬ ∀ file requestedLoadAddress, LoadsSafely file requestedLoadAddress := by
  intro h
  have houtside : isOutside (parseAndLoad longHeaders 0) = true := by decide +kernel
  exact not_inBounds_of_isOutside houtside (h longHeaders 0).inBounds

end GuideXOS.Storage.PE
