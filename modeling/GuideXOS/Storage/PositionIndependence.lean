import GuideXOS.Storage.RelocationTable

/-!
# `PositionIndependence` — one image at two addresses

The buffers of one image at two addresses differ in the words that the entries of `.reloc` name, by the difference of the
addresses, and so do the entry point and the global pointer. The success of the relocations is read off a counter, so that a
table of padding alone counts as a failure (`positionIndependent_iff`).
-/

namespace GuideXOS.Storage.PE
open Lib Lib.Words Lib.Bounds Lib.Increments

/-! ## What is promised -/

/-- The words that the entries name, in their order. -/
def relocationTargets (size : Nat) (entries : List TableEntry) : List Nat :=
  (entries.filter fun e => decide (e.Applies size)).map TableEntry.target

/-- A table that is read to its end, and each of whose entries is padding or names a word of the image. -/
def AllApplied (size : Nat) (table : Table) : Prop :=
  table.whole = true ∧ ∀ e ∈ table.entries, e.IsPadding ∨ e.Applies size

instance (size : Nat) (table : Table) : Decidable (AllApplied size table) := inferInstanceAs (Decidable (_ ∧ _))

/-- **An image at another address**: the words at the targets are increased once per entry, and every other byte is the
    same. -/
structure Shifted (targets : List Nat) (amount : UInt64) (image₁ image₂ : LoadedImage) : Prop where
  imageBuffer : Increased targets amount image₁.imageBuffer image₂.imageBuffer
  entryPoint : image₂.entryPoint = image₁.entryPoint + amount
  globalPointer : image₂.globalPointer = image₁.globalPointer.map (· + amount)

/-- The mapped image and the section of the base relocations. -/
structure HasRelocations (file : List UInt8) (info : PEImageInfo) (mapped : List UInt8) (relocSection : PESectionInfo) :
    Prop where
  mapped : mapImage file info = .ok mapped
  relocSection : info.findSectionByName relocName = some relocSection

variable {relocSection : PESectionInfo}

theorem HasRelocations.mem {file mapped : List UInt8} {info : PEImageInfo}
    (h : HasRelocations file info mapped relocSection) : mapped ∈ (mapImage file info).toOption :=
  congrArg Except.toOption h.mapped

/-- **Position independence** of an image with base relocations. At the preferred base nothing is to be applied. -/
structure PositionIndependent (file : List UInt8) (info : PEImageInfo) : Prop where
  shifted : ∀ mapped relocSection, HasRelocations file info mapped relocSection →
    ∀ loadAddress₁ loadAddress₂ image₁, loadAddress₁ ≠ 0 → loadAddress₂ ≠ 0 → loadImage file info loadAddress₁ = .ok image₁ →
      ∃ image₂, loadImage file info loadAddress₂ = .ok image₂ ∧
        Shifted (relocationTargets mapped.length (relocationTable mapped relocSection).entries)
          (loadAddress₂ - loadAddress₁) image₁ image₂
  relocated : ∀ mapped relocSection, HasRelocations file info mapped relocSection →
    ∀ loadAddress image, loadAddress ≠ 0 → loadImage file info loadAddress = .ok image →
      (image.relocated = true ↔
        loadAddress = info.imageBase ∨ AllApplied mapped.length (relocationTable mapped relocSection))

/-- **A table that says what is to be done**: the host applies no record of `.rela`, no sum of a page and an offset wraps
    into the image, no entry changes a part of the table that is still to be read, and no two words overlap without being
    the same one. -/
structure Placed (file : List UInt8) (info : PEImageInfo) : Prop where
  records : ∀ relaSection, info.findSectionByName relaName = some relaSection →
    guestOwnsIa64Relocations info = true ∨ relaSection.virtualSize = 0
  sums : ∀ mapped relocSection, HasRelocations file info mapped relocSection →
    ∀ e ∈ (relocationTable mapped relocSection).entries, e.LoaderApplies mapped.length → e.target < 2 ^ 32
  undisturbed : ∀ mapped relocSection, HasRelocations file info mapped relocSection →
    Undisturbed mapped.length (relocationTable mapped relocSection).stop (relocationTable mapped relocSection).entries
  apart : ∀ mapped relocSection, HasRelocations file info mapped relocSection →
    ∀ a ∈ relocationTargets mapped.length (relocationTable mapped relocSection).entries,
      ∀ b ∈ relocationTargets mapped.length (relocationTable mapped relocSection).entries, Apart a b

/-- An image that is loaded, and whose table is not empty but has padding alone. -/
def OnlyPadding (file : List UInt8) (info : PEImageInfo) : Prop :=
  ∃ mapped relocSection loadAddress image, HasRelocations file info mapped relocSection ∧
    loadImage file info loadAddress = .ok image ∧ relocSection.virtualSize ≠ 0 ∧
    (relocationTable mapped relocSection).whole = true ∧ ∀ e ∈ (relocationTable mapped relocSection).entries, e.IsPadding

/-! ## The targets -/

section Targets
variable {size : Nat} {e : TableEntry} {entries : List TableEntry}

/-- A sum that does not wrap is the address that the entry names. -/
theorem loaderTarget_eq (h : e.target < 2 ^ 32) : e.loaderTarget = e.target := by
  have hoffset : ((e.word &&& 0x0FFF).toUInt32).toNat = (e.word &&& 0x0FFF).toNat := UInt16.toNat_toUInt32 _
  unfold TableEntry.loaderTarget entryTarget
  rw [UInt32.toNat_add, hoffset]
  exact Nat.mod_eq_of_lt h

/-- Where no sum wraps into the image, the loader changes the word that the entry names, or none. -/
theorem loaderApplies_iff (hsize : size < 2 ^ 32) (h : e.LoaderApplies size → e.target < 2 ^ 32) :
    e.LoaderApplies size ↔ e.Applies size := by
  constructor
  · intro happlies
    have heq := loaderTarget_eq (h happlies)
    exact ⟨happlies.1, heq ▸ happlies.2⟩
  · intro happlies
    have hinside := happlies.2
    have heq := loaderTarget_eq (show e.target < 2 ^ 32 by omega)
    exact ⟨happlies.1, heq.symm ▸ happlies.2⟩

theorem loaderTargets_eq (hsize : size < 2 ^ 32) (h : ∀ e ∈ entries, e.LoaderApplies size → e.target < 2 ^ 32) :
    loaderTargets size entries = relocationTargets size entries := by
  unfold loaderTargets relocationTargets
  have hfilter : entries.filter (fun e => decide (e.LoaderApplies size)) =
      entries.filter fun e => decide (e.Applies size) :=
    List.filter_congr fun e he => decide_eq_decide.mpr (loaderApplies_iff hsize (h e he))
  rw [hfilter]
  refine List.map_congr_left fun e he => ?_
  obtain ⟨hmem, happlies⟩ := List.mem_filter.mp he
  have hloader := (loaderApplies_iff hsize (h e hmem)).mpr (of_decide_eq_true happlies)
  exact loaderTarget_eq (h e hmem hloader)

end Targets

/-! ## The run -/

section Run
variable {file mapped : List UInt8} {info : PEImageInfo} {relocSection : PESectionInfo} {loadAddress globalPointer : UInt64}
  {entry : UInt64 × Option UInt64}

/-- The records of `.rela` are left alone. -/
theorem recordStep_eq (loadAddress globalPointer : UInt64) (hplaced : Placed file info) (st : Relocating) :
    ∃ found, recordStep info loadAddress globalPointer st = .ok (true, found, st) := by
  unfold recordStep
  split
  · rename_i relaSection hrela
    split
    · exact ⟨false, rfl⟩
    · rename_i howned
      have hempty := (hplaced.records relaSection hrela).resolve_left howned
      refine ⟨true, ?_⟩
      rw [applyELFRelocations, if_pos hempty]
      rfl
  · exact ⟨false, rfl⟩

/-- Entries that are no padding are counted. -/
theorem all_padding_iff {size : Nat} {entries : List TableEntry}
    (h : ∀ e ∈ entries, e.IsPadding ∨ e.LoaderApplies size) :
    (entries.countP fun e => decide (e.LoaderApplies size)) = 0 ↔ ∀ e ∈ entries, e.IsPadding := by
  rw [List.countP_eq_zero]
  constructor
  · intro hnone e he
    exact (h e he).resolve_right (by simpa using hnone e he)
  · intro hall e he
    have hpadding := hall e he
    simp only [decide_eq_true_eq]
    exact fun happlies => absurd (happlies.1.symm.trans hpadding) (by decide)

/-- No error is counted if and only if the table is read to its end and every entry in it is applied. -/
theorem noErrors_iff {size : Nat} {table : Table} (happlies : ∀ e ∈ table.entries, (e.LoaderApplies size ↔ e.Applies size)) :
    0 + table.entries.countP (fun e => decide (¬ e.IsPadding ∧ ¬ e.LoaderApplies size)) + (if table.whole then 0 else 1) = 0 ↔
      AllApplied size table := by
  have hcount : table.entries.countP (fun e => decide (¬ e.IsPadding ∧ ¬ e.LoaderApplies size)) = 0 ↔
      ∀ e ∈ table.entries, e.IsPadding ∨ e.Applies size := by
    rw [List.countP_eq_zero]
    refine forall₂_congr fun e he => ?_
    rw [decide_eq_true_eq, ← happlies e he]
    tauto
  unfold AllApplied
  rw [← hcount]
  cases table.whole <;> simp

/-- **`applyPEBaseRelocations`** on a table that is placed. -/
theorem applyPEBaseRelocations_eq (hplaced : Placed file info) (h : HasRelocations file info mapped relocSection)
    (hsize : mapped.length < 2 ^ 32) (delta : UInt64) :
    ∃ success st, applyPEBaseRelocations relocSection delta { imageBuffer := mapped } = .ok (success, st) ∧
      Increased (relocationTargets mapped.length (relocationTable mapped relocSection).entries) delta mapped st.imageBuffer ∧
      (success = true ∧ st.relocationErrors = 0 ↔ AllApplied mapped.length (relocationTable mapped relocSection) ∧
        (relocSection.virtualSize = 0 ∨ ¬ ∀ e ∈ (relocationTable mapped relocSection).entries, e.IsPadding)) := by
  have happlies : ∀ e ∈ (relocationTable mapped relocSection).entries,
      (e.LoaderApplies mapped.length ↔ e.Applies mapped.length) :=
    fun e he => loaderApplies_iff hsize (hplaced.sums _ _ h e he)
  have htargets := loaderTargets_eq hsize (hplaced.sums _ _ h)
  have hapart := hplaced.apart _ _ h
  have hundisturbed := hplaced.undisturbed _ _ h
  unfold applyPEBaseRelocations
  split
  · rename_i hempty
    have htable : relocationTable mapped relocSection = ⟨[], true, relocSection.virtualAddress.toNat⟩ := by
      rw [relocationTable, hempty]
      rfl
    rw [htable]
    refine ⟨true, _, rfl, ⟨rfl, by simp [relocationTargets], fun _ _ => rfl⟩, ?_⟩
    simp [AllApplied, hempty]
  · rename_i hnonempty
    obtain ⟨st, hblocks, hruns⟩ := runs_relocateBlocks delta { imageBuffer := mapped } rfl (fun _ _ _ _ => rfl) hundisturbed
    replace hruns : Runs mapped.length delta (relocationTable mapped relocSection).entries
      (if (relocationTable mapped relocSection).whole then 0 else 1) { imageBuffer := mapped } st := hruns
    refine ⟨decide (st.relocationCount > 0), st, ?_, ?_, ?_⟩
    · dsimp only
      rw [hblocks]
      rfl
    · rw [hruns.imageBuffer, htargets]
      exact increased_addWords (htargets ▸ loaderTarget_inside) hapart
    · have herrors : st.relocationErrors = 0 ↔ AllApplied mapped.length (relocationTable mapped relocSection) := by
        rw [hruns.relocationErrors]
        exact noErrors_iff happlies
      rw [herrors, decide_eq_true_eq, and_comm]
      refine and_congr_right fun hall => ?_
      rw [hruns.relocationCount, Nat.zero_add, or_iff_right hnonempty, ← all_padding_iff fun e he =>
        (hall.2 e he).imp_right (happlies e he).mpr]
      exact Nat.pos_iff_ne_zero

/-- **`applyRelocations`**: the words are increased by the difference to the preferred base. -/
theorem applyRelocations_eq (loadAddress globalPointer : UInt64) (hplaced : Placed file info) (h : HasRelocations file info mapped relocSection)
    (hsize : mapped.length < 2 ^ 32) :
    ∃ success st, applyRelocations info loadAddress globalPointer mapped = .ok (success, st) ∧
      Increased (relocationTargets mapped.length (relocationTable mapped relocSection).entries)
        (loadAddress - info.imageBase) mapped st.imageBuffer ∧
      (success = true ↔ loadAddress = info.imageBase ∨
        AllApplied mapped.length (relocationTable mapped relocSection) ∧
          (relocSection.virtualSize = 0 ∨ ¬ ∀ e ∈ (relocationTable mapped relocSection).entries, e.IsPadding)) := by
  have hdelta : loadAddress - info.imageBase = 0 ↔ loadAddress = info.imageBase := by grind
  by_cases hbase : loadAddress = info.imageBase
  · -- at the preferred base nothing runs, and nothing is counted
    have hzero := hdelta.mpr hbase
    have hstep : baseStep info loadAddress { imageBuffer := mapped } = .ok (true, false, { imageBuffer := mapped }) := by
      unfold baseStep
      rw [h.relocSection]
      exact if_pos hzero
    obtain ⟨found, hrecord⟩ := recordStep_eq loadAddress globalPointer hplaced
      { imageBuffer := mapped }
    refine ⟨true, { imageBuffer := mapped }, ?_, ?_, iff_of_true rfl (.inl hbase)⟩
    · unfold applyRelocations
      rw [hstep]
      dsimp only [Fallible.ok_bind]
      rw [hrecord]
      simp [hzero]
    · rw [hzero]
      exact increased_zero
  · have hnonzero : loadAddress - info.imageBase ≠ 0 := fun hzero => hbase (hdelta.mp hzero)
    obtain ⟨success, st, happly, hincreased, hsuccess⟩ :=
      applyPEBaseRelocations_eq hplaced h hsize (loadAddress - info.imageBase)
    have hstep : baseStep info loadAddress { imageBuffer := mapped } = .ok (success, true, st) := by
      unfold baseStep
      rw [h.relocSection]
      dsimp only
      rw [if_neg hnonzero, happly]
      rfl
    obtain ⟨found, hrecord⟩ := recordStep_eq loadAddress globalPointer hplaced st
    refine ⟨success && decide (st.relocationErrors = 0), st, ?_, hincreased, ?_⟩
    · unfold applyRelocations
      rw [hstep]
      dsimp only [Fallible.ok_bind]
      rw [hrecord]
      simp
    · rw [or_iff_right hbase, ← hsuccess, Bool.and_eq_true, decide_eq_true_eq]

/-! ## The load -/

theorem entryDescriptor_eq (info : PEImageInfo) (loadAddress : UInt64) (mapped : List UInt8) (entryPointRVA : UInt64) :
    entryDescriptor info loadAddress mapped entryPointRVA =
      (entryDescriptor info 0 mapped entryPointRVA).map fun entry => (entry.1, entry.2.map (loadAddress + ·)) := by
  unfold entryDescriptor
  split
  · cases fetch mapped entryPointRVA.toNat 8 with
    | error fault => rfl
    | ok code =>
        dsimp only [Fallible.ok_bind]
        split
        · split
          · cases fetch mapped (entryPointRVA + 8).toNat 8 with
            | error fault => rfl
            | ok descriptorGP =>
                dsimp only [Fallible.ok_bind, Fallible.pure_eq_ok, Except.map, Option.map]
                rw [UInt64.zero_add]
          · rfl
        · rfl
  · rfl

/-- The entry point is found in the mapped image, and the global pointer moves with the address. -/
theorem findEntry_eq (info : PEImageInfo) (loadAddress : UInt64) (mapped : List UInt8) :
    findEntry info loadAddress mapped =
      (findEntry info 0 mapped).map fun entry => (entry.1, entry.2.map (loadAddress + ·)) := by
  unfold findEntry
  dsimp only
  split
  · rfl
  · split
    · rfl
    · exact entryDescriptor_eq info loadAddress mapped _

/-- The entry that an image finds, whatever its address is. -/
structure Enters (info : PEImageInfo) (mapped : List UInt8) (entry : UInt64 × Option UInt64) : Prop where
  findEntry : findEntry info 0 mapped = .ok entry
  dump : dumpMemoryAtEntryPoint mapped entry.1 = .ok ()

/-- **What is loaded at an address**, from the mapped image and its entry. -/
structure LoadedAt (info : PEImageInfo) (mapped : List UInt8) (relocSection : PESectionInfo)
    (entry : UInt64 × Option UInt64) (loadAddress : UInt64) (image : LoadedImage) : Prop where
  imageBuffer : Increased (relocationTargets mapped.length (relocationTable mapped relocSection).entries)
    (loadAddress - info.imageBase) mapped image.imageBuffer
  entryPoint : image.entryPoint = loadAddress + entry.1
  globalPointer : image.globalPointer = entry.2.map (loadAddress + ·)
  relocated : image.relocated = true ↔ loadAddress = info.imageBase ∨
    AllApplied mapped.length (relocationTable mapped relocSection) ∧
      (relocSection.virtualSize = 0 ∨ ¬ ∀ e ∈ (relocationTable mapped relocSection).entries, e.IsPadding)

/-- The address that an image is loaded at. -/
def chosenAddress (info : PEImageInfo) (requestedLoadAddress : UInt64) : UInt64 :=
  if requestedLoadAddress ≠ 0 then requestedLoadAddress else info.imageBase

/-- An image that has an entry is loaded at every address. -/
theorem exists_loadImage (loadAddress : UInt64) (hplaced : Placed file info)
    (h : HasRelocations file info mapped relocSection) (henters : Enters info mapped entry) :
    ∃ image, loadImage file info loadAddress = .ok image ∧
      LoadedAt info mapped relocSection entry (chosenAddress info loadAddress) image := by
  have hsize : mapped.length < 2 ^ 32 := (of_mapImage h.mapped).1 ▸ info.sizeOfImage.toNat_lt
  have hentry : findEntry info (chosenAddress info loadAddress) mapped =
      .ok (entry.1, entry.2.map (chosenAddress info loadAddress + ·)) := by
    rw [findEntry_eq, henters.findEntry]
    rfl
  obtain ⟨success, st, happly, hincreased, hsuccess⟩ := applyRelocations_eq (chosenAddress info loadAddress)
    ((entry.2.map (chosenAddress info loadAddress + ·)).getD (chosenAddress info loadAddress)) hplaced h hsize
  refine ⟨⟨st.imageBuffer, chosenAddress info loadAddress, chosenAddress info loadAddress + entry.1,
    entry.2.map (chosenAddress info loadAddress + ·), success, st⟩, ?_, hincreased, rfl, rfl, hsuccess⟩
  unfold loadImage
  rw [h.mapped]
  show finishImage info (chosenAddress info loadAddress) mapped = _
  unfold finishImage
  rw [hentry]
  dsimp only [Fallible.ok_bind]
  rw [henters.dump]
  dsimp only [Fallible.ok_bind]
  rw [happly]
  rfl

/-- An image that is loaded has an entry. -/
theorem enters_of_loadImage (h : HasRelocations file info mapped relocSection) {image : LoadedImage}
    (hload : loadImage file info loadAddress = .ok image) : ∃ entry, Enters info mapped entry := by
  unfold loadImage at hload
  rw [h.mapped] at hload
  obtain ⟨_, hmapped, hload⟩ := Fallible.bind_eq_ok.mp hload
  obtain rfl := Except.ok.inj hmapped
  obtain ⟨entry, hentry, hload⟩ := Fallible.bind_eq_ok.mp hload
  obtain ⟨_, hdump, -⟩ := Fallible.bind_eq_ok.mp hload
  rw [findEntry_eq] at hentry
  obtain ⟨entry', hentry', rfl⟩ := Fallible.map_eq_ok.mp hentry
  exact ⟨entry', hentry', hdump⟩

/-- The image that is loaded is the one at the address. -/
theorem loadedAt_of_loadImage (hplaced : Placed file info) (h : HasRelocations file info mapped relocSection)
    (henters : Enters info mapped entry) (hnonzero : loadAddress ≠ 0) {image : LoadedImage}
    (hload : loadImage file info loadAddress = .ok image) :
    LoadedAt info mapped relocSection entry loadAddress image := by
  obtain ⟨image', hload', hloaded⟩ := exists_loadImage loadAddress hplaced h henters
  rw [hload] at hload'
  obtain rfl := Except.ok.inj hload'
  rwa [chosenAddress, if_pos hnonzero] at hloaded

end Run

/-- Two images of one file at two addresses. -/
theorem LoadedAt.shifted {info : PEImageInfo} {mapped : List UInt8} {entry : UInt64 × Option UInt64}
    {loadAddress₁ loadAddress₂ : UInt64} {image₁ image₂ : LoadedImage}
    (h₁ : LoadedAt info mapped relocSection entry loadAddress₁ image₁)
    (h₂ : LoadedAt info mapped relocSection entry loadAddress₂ image₂) :
    Shifted (relocationTargets mapped.length (relocationTable mapped relocSection).entries) (loadAddress₂ - loadAddress₁)
      image₁ image₂ := by
  have hamount : loadAddress₂ - info.imageBase - (loadAddress₁ - info.imageBase) = loadAddress₂ - loadAddress₁ := by grind
  refine ⟨hamount ▸ h₁.imageBuffer.between h₂.imageBuffer, ?_, ?_⟩
  · rw [h₂.entryPoint, h₁.entryPoint]
    grind
  · rw [h₂.globalPointer, h₁.globalPointer, Option.map_map]
    congr 1
    funext globalPointer
    simp only [Function.comp]
    grind

/-- **An image is position independent exactly if its table is not padding alone.** -/
theorem positionIndependent_iff (file : List UInt8) (info : PEImageInfo) (hplaced : Placed file info) :
    PositionIndependent file info ↔ ¬ OnlyPadding file info := by
  constructor
  · rintro h ⟨mapped, relocSection, loadAddress, image, hrelocations, hload, hnonempty, hwhole, hpadding⟩
    obtain ⟨entry, henters⟩ := enters_of_loadImage hrelocations hload
    -- one of two addresses is not the preferred base
    obtain ⟨loadAddress', hnonzero, hother⟩ : ∃ l : UInt64, l ≠ 0 ∧ l ≠ info.imageBase := by
      by_cases hone : info.imageBase = 1
      · exact ⟨2, by decide, by rw [hone]; decide⟩
      · exact ⟨1, by decide, fun h => hone h.symm⟩
    obtain ⟨image', hload', _⟩ := exists_loadImage loadAddress' hplaced hrelocations henters
    have hloaded := loadedAt_of_loadImage hplaced hrelocations henters hnonzero hload'
    have hsuccess := (h.relocated _ _ hrelocations _ _ hnonzero hload').mpr
      (.inr ⟨hwhole, fun e he => .inl (hpadding e he)⟩)
    rcases hloaded.relocated.mp hsuccess with hbase | ⟨-, hempty | hsome⟩
    · exact hother hbase
    · exact hnonempty hempty
    · exact hsome hpadding
  · intro h
    refine ⟨?_, ?_⟩
    · intro mapped relocSection hrelocations loadAddress₁ loadAddress₂ image₁ hnonzero₁ hnonzero₂ hload₁
      obtain ⟨entry, henters⟩ := enters_of_loadImage hrelocations hload₁
      obtain ⟨image₂, hload₂, _⟩ := exists_loadImage loadAddress₂ hplaced hrelocations henters
      exact ⟨image₂, hload₂, (loadedAt_of_loadImage hplaced hrelocations henters hnonzero₁ hload₁).shifted
        (loadedAt_of_loadImage hplaced hrelocations henters hnonzero₂ hload₂)⟩
    · intro mapped relocSection hrelocations loadAddress image hnonzero hload
      obtain ⟨entry, henters⟩ := enters_of_loadImage hrelocations hload
      rw [(loadedAt_of_loadImage hplaced hrelocations henters hnonzero hload).relocated]
      refine or_congr_right ⟨fun hall => hall.1, fun hall => ⟨hall, ?_⟩⟩
      by_contra hnot
      push_neg at hnot
      exact h ⟨mapped, relocSection, loadAddress, image, hrelocations, hload, hnot.1, hall.1, hnot.2⟩

/-- An executable section without raw data, and a table of one block with two entries, of which the second is padding. -/
@[irreducible] def twoEntries (first : UInt64) : List UInt8 :=
  bytesOfWord 2 0x5A4D ++ List.replicate 58 0 ++ bytesOfWord 4 64 ++
    bytesOfWord 4 0x00004550 ++
    bytesOfWord 2 0x200 ++ bytesOfWord 2 2 ++ List.replicate 12 0 ++ bytesOfWord 2 112 ++ List.replicate 2 0 ++
    bytesOfWord 2 0x20B ++ List.replicate 14 0 ++ bytesOfWord 4 0x118 ++ List.replicate 36 0 ++ bytesOfWord 4 0x134 ++
      bytesOfWord 4 0x118 ++ List.replicate 48 0 ++
    [0x2E, 0x74, 0x65, 0x78, 0x74, 0, 0, 0] ++ bytesOfWord 4 16 ++ bytesOfWord 4 0x118 ++ List.replicate 20 0 ++
      bytesOfWord 4 0x20000000 ++
    [0x2E, 0x72, 0x65, 0x6C, 0x6F, 0x63, 0, 0] ++ bytesOfWord 4 12 ++ bytesOfWord 4 0x128 ++ bytesOfWord 4 12 ++
      bytesOfWord 4 0x118 ++ List.replicate 16 0 ++
    bytesOfWord 4 0 ++ bytesOfWord 4 12 ++ bytesOfWord 2 first ++ bytesOfWord 2 0

def infoOf (file : List UInt8) : PEImageInfo := (parse file).toOption.getD {}

instance (size stop : Nat) (entries : List TableEntry) : Decidable (Undisturbed size stop entries) :=
  inferInstanceAs (Decidable (∀ e ∈ entries, _))

/-- **A table with a word to increase** is placed and not padding alone. -/
theorem positionIndependent_moved :
    (parse (twoEntries 0xA118)).toOption.isSome = true ∧
      PositionIndependent (twoEntries 0xA118) (infoOf (twoEntries 0xA118)) := by
  have hcheck : ∀ mapped ∈ (mapImage (twoEntries 0xA118) (infoOf (twoEntries 0xA118))).toOption,
      ∀ relocSection ∈ (infoOf (twoEntries 0xA118)).findSectionByName relocName,
      (∀ e ∈ (relocationTable mapped relocSection).entries, e.LoaderApplies mapped.length → e.target < 2 ^ 32) ∧
        Undisturbed mapped.length (relocationTable mapped relocSection).stop (relocationTable mapped relocSection).entries ∧
        (∀ a ∈ relocationTargets mapped.length (relocationTable mapped relocSection).entries,
          ∀ b ∈ relocationTargets mapped.length (relocationTable mapped relocSection).entries, Apart a b) ∧
        ¬ ∀ e ∈ (relocationTable mapped relocSection).entries, e.IsPadding := by
    decide +kernel
  refine ⟨by decide +kernel, (positionIndependent_iff _ _ ⟨?_, ?_, ?_, ?_⟩).mpr ?_⟩
  · have hrela : (infoOf (twoEntries 0xA118)).findSectionByName relaName = none := by
      rw [← Option.isNone_iff_eq_none]
      decide +kernel
    intro relaSection hsome
    rw [hrela] at hsome
    cases hsome
  · exact fun mapped relocSection h => (hcheck mapped h.mem relocSection h.relocSection).1
  · exact fun mapped relocSection h => (hcheck mapped h.mem relocSection h.relocSection).2.1
  · exact fun mapped relocSection h => (hcheck mapped h.mem relocSection h.relocSection).2.2.1
  · rintro ⟨mapped, relocSection, _, _, h, -, -, -, hpadding⟩
    exact (hcheck mapped h.mem relocSection h.relocSection).2.2.2 hpadding

/-- All entries are applied, and the relocations fail. -/
def appliedAndFailed (file : List UInt8) : Bool :=
  match parse file with
  | .ok info =>
    match mapImage file info, info.findSectionByName relocName, loadImage file info 1 with
    | .ok mapped, some relocSection, .ok image =>
      decide (AllApplied mapped.length (relocationTable mapped relocSection)) && !image.relocated
    | _, _, _ => false
  | _ => false

/-- **A table of padding** is applied in full, and the relocations fail. -/
theorem paddingFails : ¬ ∀ file info, parse file = .ok info → PositionIndependent file info := by
  intro h
  have hrun : appliedAndFailed (twoEntries 0) = true := by decide +kernel
  unfold appliedAndFailed at hrun
  split at hrun
  · rename_i info hparse
    split at hrun
    · rename_i mapped relocSection image hmapped hreloc hload
      have hfails := (h _ info hparse).relocated mapped relocSection ⟨hmapped, hreloc⟩ 1 image (by decide) hload
      simp only [Bool.and_eq_true, decide_eq_true_eq, Bool.not_eq_true'] at hrun
      rw [hfails.mpr (.inr hrun.1)] at hrun
      exact absurd hrun.2 (by decide)
    · cases hrun
  · cases hrun

end GuideXOS.Storage.PE
