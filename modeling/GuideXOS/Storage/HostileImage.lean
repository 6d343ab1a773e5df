import GuideXOS.Storage.DeviceReads
import GuideXOS.Storage.SimpleReadOnlyFS

/-!
# `HostileImage` — reading an image that nobody wrote

Every number that the reader computes with comes from the image. `Survives` says that mounting and reading end, stay
inside their buffers and deliver nothing where the image's block size is not the device's. They do so if and only if the
device copies no more than each buffer holds and no size of the directory wraps around (`Harmless`); the reader checks
neither.
-/

namespace GuideXOS.Storage.SimpleReadOnlyFS
open Core Lib.Blocks

/-! ## What the reader sees of an image -/

section Image
variable {δ : Type _} [IStorageDevice δ] [ByteStore δ] [PlannedReads δ]

/-- The superblock, if there is a valid one. -/
def superblockOn (d : δ) : Option Superblock :=
  let superblock := Superblock.deserialize ((transfer d 0 1).left (List.replicate SUPERBLOCK_SIZE 0))
  if (transfer d 0 1).result = 1 ∧ superblock.isValid then some superblock else none

def tableBlockCount (superblock : Superblock) : UInt64 :=
  (directoryBlocks superblock.dirEntries superblock.blockSize).toUInt64

/-- The length of the buffer for the directory table. -/
def tableSize (superblock : Superblock) : Nat :=
  (directoryBlocks superblock.dirEntries superblock.blockSize * superblock.blockSize).toNat

def tableTransfer (d : δ) (superblock : Superblock) : Transfer :=
  transfer d superblock.dirBlock (tableBlockCount superblock)

/-- The table, where the device has all of its blocks. -/
def tableOn (d : δ) (superblock : Superblock) : Option (List UInt8) :=
  if tableSize superblock ≠ 0 ∧ (tableTransfer d superblock).result = (tableBlockCount superblock).toInt64 then
    some ((tableTransfer d superblock).left (List.replicate (tableSize superblock) 0))
  else none

/-- Where an entry lies in the table. -/
def entryOffset (index : Nat) : Nat := (UInt32.ofNat index * DIRENT_SIZE).toNat

def entryOn (table : List UInt8) (index : Nat) : DirEntry :=
  DirEntry.deserialize (field table (entryOffset index) DIRENT_SIZE.toNat)

def directoryOn (d : δ) (superblock : Superblock) : Option (List DirEntry) :=
  (tableOn d superblock).map fun table =>
    ((List.range superblock.dirEntries.toNat).map (entryOn table)).filter fun entry => entry.name.headD 0 ≠ 0

/-- The file system on a device. -/
def imageOn (d : δ) : Option SimpleReadOnlyFS :=
  if isConnected d then
    (superblockOn d).bind fun superblock => (directoryOn d superblock).map fun directory => ⟨superblock, directory⟩
  else none

/-- The block that holds the bytes of a file from `i` blocks on. -/
def blockOf (entry : DirEntry) (i : Nat) : UInt64 := entry.dataBlock.toUInt64 + UInt64.ofNat i

/-! ## Surviving and harmless images -/

/-- **What the reader promises** for any device and image. What is looked up or listed comes from the directory alone,
whose names end inside their fields. -/
structure Survives (d : δ) : Prop where
  mounts : ∃ result, mount d = .ok result
  names : ∀ fs, mount d = .ok (some fs) → ∀ entry ∈ fs.directory,
    entry.name.length = MAX_FILENAME_LENGTH ∧ 0 ∈ entry.name
  reads : ∀ fs, mount d = .ok (some fs) → ∀ path size offset, ∃ count bytes,
    readFile d fs path size offset = .ok (count, bytes) ∧ bytes.length ≤ size.toNat
  fails : ∀ fs, mount d = .ok (some fs) → fs.superblock.blockSize.toNat ≠ (shape d).blockSize →
    ∀ path size offset count bytes, readFile d fs path size offset = .ok (count, bytes) → bytes = []

/-- The directory table of a valid superblock. -/
structure TableHarmless (d : δ) (superblock : Superblock) : Prop where
  blockSize_ne : superblock.blockSize ≠ 0
  fits : tableSize superblock ≠ 0 → (tableTransfer d superblock).Fits (tableSize superblock)
  entries : (tableOn d superblock).isSome →
    superblock.dirEntries.toNat * 64 + superblock.blockSize.toNat ≤ 2 ^ 32

/-- A file: its blocks fit the buffer for a block, and none can be read where the block sizes differ. -/
structure FileHarmless (d : δ) (fs : SimpleReadOnlyFS) (entry : DirEntry) : Prop where
  fits : ∀ i, i * fs.superblock.blockSize.toNat < entry.size.toNat →
    (transfer d (blockOf entry i) 1).Fits fs.superblock.blockSize.toNat
  fails : fs.superblock.blockSize.toNat ≠ (shape d).blockSize → ∀ i,
    i * fs.superblock.blockSize.toNat < entry.size.toNat → (transfer d (blockOf entry i) 1).result ≠ 1

/-- **A harmless image.** -/
structure Harmless (d : δ) : Prop where
  superblock : isConnected d = true → (transfer d 0 1).Fits SUPERBLOCK_SIZE
  table : isConnected d = true → ∀ superblock, superblockOn d = some superblock → TableHarmless d superblock
  files : ∀ fs, imageOn d = some fs → ∀ path entry, findEntry fs path = some entry → entry.type = 0 →
    FileHarmless d fs entry

end Image

/-! ## Mounting -/

section Mount

/-- Where the entries of the table lie. -/
theorem entries_inside_iff {superblock : Superblock} (hblock : superblock.blockSize ≠ 0)
    (hsize : tableSize superblock ≠ 0) :
    (∀ i < superblock.dirEntries.toNat, entryOffset i + 64 ≤ tableSize superblock) ↔
      superblock.dirEntries.toNat * 64 + superblock.blockSize.toNat ≤ 2 ^ 32 := by
  have hde := superblock.dirEntries.toNat_lt
  have hbs := superblock.blockSize.toNat_lt
  have hpos : 0 < superblock.blockSize.toNat := Nat.pos_of_ne_zero fun hzero => hblock (UInt32.toNat_inj.mp hzero)
  -- the sum that is divided, and what the division leaves of it
  have hblocks : (directoryBlocks superblock.dirEntries superblock.blockSize).toNat =
      (superblock.dirEntries.toNat * 64 + superblock.blockSize.toNat - 1) % 2 ^ 32 / superblock.blockSize.toNat := by
    have hsixtyfour : DIRENT_SIZE.toNat = 64 := rfl
    rw [directoryBlocks, UInt32.toNat_div, UInt32.toNat_sub, UInt32.toNat_add, UInt32.toNat_mul, hsixtyfour,
      UInt32.toNat_one]
    congr 1
    omega
  have hle := Nat.div_mul_le_self
    ((superblock.dirEntries.toNat * 64 + superblock.blockSize.toNat - 1) % 2 ^ 32) superblock.blockSize.toNat
  have hlt := Nat.lt_div_mul_add (a := (superblock.dirEntries.toNat * 64 + superblock.blockSize.toNat - 1) % 2 ^ 32) hpos
  have htable : tableSize superblock = (superblock.dirEntries.toNat * 64 + superblock.blockSize.toNat - 1) % 2 ^ 32 /
      superblock.blockSize.toNat * superblock.blockSize.toNat := by
    rw [tableSize, UInt32.toNat_mul, hblocks]
    exact Nat.mod_eq_of_lt (by omega)
  have hoffset : ∀ i, entryOffset i = i * 64 % 2 ^ 32 := fun i => by
    have hsixtyfour : DIRENT_SIZE.toNat = 64 := rfl
    rw [entryOffset, UInt32.toNat_mul, UInt32.toNat_ofNat', hsixtyfour]
    omega
  rw [← htable] at hle hlt
  constructor
  · intro hinside
    by_contra hwraps
    rcases Nat.lt_or_ge superblock.dirEntries.toNat (2 ^ 26) with hfew | hmany
    · have hlast := hinside (superblock.dirEntries.toNat - 1) (by omega)
      rw [hoffset] at hlast
      omega
    · have hlast := hinside (2 ^ 26 - 1) (by omega)
      rw [hoffset] at hlast
      omega
  · intro hsmall i hi
    rw [hoffset]
    omega

/-- A fallible map over a list, where each step gives a value or fails in one way. -/
theorem mapM_total {α β ε : Type} {f : α → Except ε β} {g : α → β} {l : List α} (h : ∀ a ∈ l, f a = .ok (g a)) :
    l.mapM f = .ok (l.map g) := by
  induction l with
  | nil => rfl
  | cons a l ih =>
      obtain ⟨ha, hl⟩ := List.forall_mem_cons.mp h
      rw [List.mapM_cons, ha, ih hl]
      rfl

theorem mapM_fails {α β ε : Type} {f : α → Except ε β} {e : ε} {l : List α} (hf : ∀ a, (∃ b, f a = .ok b) ∨ f a = .error e)
    (h : ∃ a ∈ l, f a = .error e) : l.mapM f = .error e := by
  induction l with
  | nil =>
      obtain ⟨a, hmem, -⟩ := h
      cases hmem
  | cons a l ih =>
      rw [List.mapM_cons]
      rcases hf a with ⟨b, hok⟩ | herror
      · obtain ⟨a', hmem, hfails⟩ := h
        rcases List.mem_cons.mp hmem with rfl | hlater
        · rw [hok] at hfails
          cases hfails
        · rw [hok, ih ⟨a', hlater, hfails⟩]
          rfl
      · rw [herror]
        rfl

variable {δ : Type} [IStorageDevice δ] [ByteStore δ] [PlannedReads δ] {d : δ} {superblock : Superblock}

theorem entryAt_eq (table : List UInt8) (i : Nat) :
    entryAt table i = if entryOffset i + 64 ≤ table.length then .ok (entryOn table i) else .error .undefined := rfl

theorem zeros_ne_nil {n : Nat} (h : n ≠ 0) : List.replicate n (0 : UInt8) ≠ [] := by
  simpa using h

theorem superblockBuffer_length : (List.replicate SUPERBLOCK_SIZE (0 : UInt8)).length = SUPERBLOCK_SIZE :=
  List.length_replicate

theorem readSuperblock_of_fits (h : (transfer d 0 1).Fits SUPERBLOCK_SIZE) :
    readSuperblock d = .ok (superblockOn d) := by
  have hread : IStorageDevice.readBlocks d 0 1 (List.replicate SUPERBLOCK_SIZE 0) = .returned (transfer d 0 1).result
      ((transfer d 0 1).left (List.replicate SUPERBLOCK_SIZE 0)) := by
    rw [PlannedReads.readBlocks_eq d 0 1 (zeros_ne_nil (by decide)), Transfer.into_of_fits]
    rw [superblockBuffer_length]
    exact h
  rw [readSuperblock, hread]
  rfl

theorem readSuperblock_of_not_fits (h : ¬ (transfer d 0 1).Fits SUPERBLOCK_SIZE) :
    readSuperblock d = .error .undefined := by
  have hread : IStorageDevice.readBlocks d 0 1 (List.replicate SUPERBLOCK_SIZE 0) = .undefined := by
    rw [PlannedReads.readBlocks_eq d 0 1 (zeros_ne_nil (by decide)), Transfer.into_of_not_fits]
    rw [superblockBuffer_length]
    exact h
  rw [readSuperblock, hread]
  rfl

/-- The count of blocks is never the result of a call that is refused for want of a buffer. -/
theorem tableBlockCount_ne (superblock : Superblock) : (-1 : Int64) ≠ (tableBlockCount superblock).toInt64 := by
  intro h
  have hnat : (tableBlockCount superblock).toNat < 2 ^ 32 := by
    rw [tableBlockCount, UInt32.toNat_toUInt64]
    exact UInt32.toNat_lt _
  have hint := congrArg Int64.toInt h
  rw [toInt_toInt64 (by omega)] at hint
  have hminus : (-1 : Int64).toInt = -1 := rfl
  omega

/-- What becomes of the blocks that were read for the table. -/
def parseTable (superblock : Superblock) (read : Int64 × List UInt8) : Except Stop (Option (List DirEntry)) :=
  if read.1 ≠ (tableBlockCount superblock).toInt64 then .ok none
  else do
    let entries ← (List.range superblock.dirEntries.toNat).mapM (entryAt read.2)
    .ok (some (entries.filter fun entry => entry.name.headD 0 ≠ 0))

theorem readDirectory_eq (d : δ) (hblock : superblock.blockSize ≠ 0) :
    readDirectory d superblock =
      (IStorageDevice.readBlocks d superblock.dirBlock (tableBlockCount superblock)
        (List.replicate (tableSize superblock) 0)).result >>= parseTable superblock := by
  rw [readDirectory, if_neg hblock]
  rfl

/-- A table of a buffer without bytes is not read. -/
theorem readDirectory_of_empty (hblock : superblock.blockSize ≠ 0) (hsize : tableSize superblock = 0) :
    readDirectory d superblock = .ok (directoryOn d superblock) := by
  have hnone : directoryOn d superblock = none := by
    rw [directoryOn, tableOn, if_neg fun hboth => hboth.1 hsize]
    rfl
  have hbuffer : List.replicate (tableSize superblock) (0 : UInt8) = [] := by
    rw [hsize]
    rfl
  rw [readDirectory_eq d hblock, hbuffer, PlannedReads.readBlocks_nil, hnone]
  exact if_pos (tableBlockCount_ne superblock)

/-- The call for the table. -/
theorem tableRead_of_fits (hsize : tableSize superblock ≠ 0)
    (hfits : (tableTransfer d superblock).Fits (tableSize superblock)) :
    IStorageDevice.readBlocks d superblock.dirBlock (tableBlockCount superblock)
        (List.replicate (tableSize superblock) 0) =
      .returned (tableTransfer d superblock).result
        ((tableTransfer d superblock).left (List.replicate (tableSize superblock) 0)) := by
  rw [PlannedReads.readBlocks_eq d _ _ (zeros_ne_nil hsize)]
  refine Transfer.into_of_fits ?_
  rw [List.length_replicate]
  exact hfits

/-- **The directory**, once its blocks are in the buffer: it is read, or the entries leave the buffer. -/
theorem readDirectory_of_fits (hblock : superblock.blockSize ≠ 0) (hsize : tableSize superblock ≠ 0)
    (hfits : (tableTransfer d superblock).Fits (tableSize superblock)) :
    readDirectory d superblock =
      if (tableOn d superblock).isSome → superblock.dirEntries.toNat * 64 + superblock.blockSize.toNat ≤ 2 ^ 32 then
        .ok (directoryOn d superblock)
      else .error .undefined := by
  have hlength : ((tableTransfer d superblock).left (List.replicate (tableSize superblock) 0)).length =
      tableSize superblock := by
    rw [Transfer.length_left] <;> rw [List.length_replicate]
    exact hfits
  rw [readDirectory_eq d hblock, tableRead_of_fits hsize hfits]
  show parseTable superblock (_, _) = _
  rw [parseTable]
  by_cases hcount : (tableTransfer d superblock).result = (tableBlockCount superblock).toInt64
  swap
  · have hnone : tableOn d superblock = none := if_neg fun hboth => hcount hboth.2
    rw [if_pos hcount, directoryOn, hnone]
    exact (if_pos fun hsome => nomatch hsome).symm
  have htable : tableOn d superblock =
      some ((tableTransfer d superblock).left (List.replicate (tableSize superblock) 0)) := if_pos ⟨hsize, hcount⟩
  rw [if_neg (not_not_intro hcount), directoryOn, htable]
  by_cases hentries : superblock.dirEntries.toNat * 64 + superblock.blockSize.toNat ≤ 2 ^ 32
  · rw [if_pos fun _ => hentries]
    have hinside := (entries_inside_iff hblock hsize).mpr hentries
    rw [mapM_total fun i hi => ?_]
    · rfl
    · rw [entryAt_eq, hlength]
      exact if_pos (hinside i (List.mem_range.mp hi))
  · rw [if_neg fun himp => hentries (himp rfl)]
    have houtside : ∃ i ∈ List.range superblock.dirEntries.toNat, ¬ entryOffset i + 64 ≤ tableSize superblock := by
      by_contra hall
      refine hentries ((entries_inside_iff hblock hsize).mp fun i hi => ?_)
      by_contra hout
      exact hall ⟨i, List.mem_range.mpr hi, hout⟩
    obtain ⟨i, hi, hout⟩ := houtside
    rw [mapM_fails (e := .undefined) (fun j => ?_) ⟨i, hi, ?_⟩]
    · rfl
    · rw [entryAt_eq, hlength]
      exact if_neg hout
    · rw [entryAt_eq]
      split
      · exact .inl ⟨_, rfl⟩
      · exact .inr rfl

/-- **The directory is read** if and only if the table is harmless. -/
theorem readDirectory_ok_iff (d : δ) (superblock : Superblock) :
    (∃ result, readDirectory d superblock = .ok result) ↔ TableHarmless d superblock := by
  constructor
  · rintro ⟨result, hread⟩
    have hblock : superblock.blockSize ≠ 0 := by
      intro hzero
      rw [readDirectory, if_pos hzero] at hread
      cases hread
    by_cases hsize : tableSize superblock = 0
    · refine ⟨hblock, fun hne => absurd hsize hne, fun hsome => ?_⟩
      rw [tableOn, if_neg fun hboth => hboth.1 hsize] at hsome
      cases hsome
    have hfits : (tableTransfer d superblock).Fits (tableSize superblock) := by
      by_contra hnot
      have hundefined : IStorageDevice.readBlocks d superblock.dirBlock (tableBlockCount superblock)
          (List.replicate (tableSize superblock) 0) = .undefined := by
        rw [PlannedReads.readBlocks_eq d _ _ (zeros_ne_nil hsize)]
        refine Transfer.into_of_not_fits ?_
        rw [List.length_replicate]
        exact hnot
      have herror : readDirectory d superblock = .error .undefined := by
        rw [readDirectory_eq d hblock, hundefined]
        rfl
      rw [herror] at hread
      cases hread
    refine ⟨hblock, fun _ => hfits, ?_⟩
    by_contra hentries
    rw [readDirectory_of_fits hblock hsize hfits, if_neg hentries] at hread
    cases hread
  · intro h
    by_cases hsize : tableSize superblock = 0
    · exact ⟨_, readDirectory_of_empty h.blockSize_ne hsize⟩
    · refine ⟨directoryOn d superblock, ?_⟩
      rw [readDirectory_of_fits h.blockSize_ne hsize (h.fits hsize), if_pos h.entries]

theorem readDirectory_of_harmless (h : TableHarmless d superblock) :
    readDirectory d superblock = .ok (directoryOn d superblock) := by
  by_cases hsize : tableSize superblock = 0
  · exact readDirectory_of_empty h.blockSize_ne hsize
  · rw [readDirectory_of_fits h.blockSize_ne hsize (h.fits hsize), if_pos h.entries]

/-- **Mounting is defined** if and only if the superblock's buffer has room for a block and the table is harmless. -/
theorem mount_ok_iff (d : δ) : (∃ result, mount d = .ok result) ↔
    (isConnected d = true → (transfer d 0 1).Fits SUPERBLOCK_SIZE) ∧
      (isConnected d = true → ∀ superblock, superblockOn d = some superblock → TableHarmless d superblock) := by
  unfold mount
  by_cases hconnected : isConnected d = true
  swap
  · rw [if_pos (by simpa using hconnected)]
    exact ⟨fun _ => ⟨fun h => absurd h hconnected, fun h => absurd h hconnected⟩, fun _ => ⟨none, rfl⟩⟩
  rw [if_neg (by simpa using hconnected)]
  by_cases hfits : (transfer d 0 1).Fits SUPERBLOCK_SIZE
  swap
  · rw [readSuperblock_of_not_fits hfits]
    refine ⟨fun ⟨_, hresult⟩ => (nomatch hresult), fun h => absurd (h.1 hconnected) hfits⟩
  rw [readSuperblock_of_fits hfits]
  cases hsuperblock : superblockOn d with
  | none => exact ⟨fun _ => ⟨fun _ => hfits, fun _ superblock hsome => (nomatch hsome)⟩, fun _ => ⟨none, rfl⟩⟩
  | some superblock =>
      constructor
      · rintro ⟨result, hresult⟩
        refine ⟨fun _ => hfits, fun _ other hother => ?_⟩
        cases hother
        refine (readDirectory_ok_iff d superblock).mp ?_
        cases hdirectory : readDirectory d superblock with
        | ok directory => exact ⟨directory, rfl⟩
        | error stop =>
            change (readDirectory d superblock >>= _) = _ at hresult
            rw [hdirectory] at hresult
            cases hresult
      · rintro ⟨-, htable⟩
        have hdirectory := readDirectory_of_harmless (htable hconnected superblock rfl)
        cases hread : directoryOn d superblock with
        | none =>
            refine ⟨none, ?_⟩
            show (readDirectory d superblock >>= _) = _
            rw [hdirectory, hread]
            rfl
        | some directory =>
            refine ⟨some ⟨superblock, directory⟩, ?_⟩
            show (readDirectory d superblock >>= _) = _
            rw [hdirectory, hread]
            rfl

/-- What is mounted is the file system on the device. -/
theorem mount_eq_imageOn {result : Option SimpleReadOnlyFS} (h : mount d = .ok result) : result = imageOn d := by
  obtain ⟨hfits, htable⟩ := (mount_ok_iff d).mp ⟨result, h⟩
  unfold mount at h
  unfold imageOn
  by_cases hconnected : isConnected d = true
  swap
  · rw [if_pos (by simpa using hconnected)] at h
    cases h
    rw [if_neg hconnected]
  rw [if_neg (by simpa using hconnected), readSuperblock_of_fits (hfits hconnected)] at h
  rw [if_pos hconnected]
  cases hsuperblock : superblockOn d with
  | none =>
      rw [hsuperblock] at h
      cases h
      rfl
  | some superblock =>
      rw [hsuperblock] at h
      have hdirectory := readDirectory_of_harmless (htable hconnected superblock hsuperblock)
      change (readDirectory d superblock >>= _) = _ at h
      rw [hdirectory] at h
      rw [Option.bind_some]
      cases hread : directoryOn d superblock with
      | none =>
          rw [hread] at h
          cases h
          rfl
      | some directory =>
          rw [hread] at h
          cases h
          rfl

/-- A mounted file system has a block size that is not zero, and names that end. -/
theorem imageOn_facts (htable : isConnected d = true → ∀ superblock, superblockOn d = some superblock →
      TableHarmless d superblock) {fs : SimpleReadOnlyFS} (h : imageOn d = some fs) :
    fs.superblock.blockSize ≠ 0 ∧
      ∀ entry ∈ fs.directory, entry.name.length = MAX_FILENAME_LENGTH ∧ 0 ∈ entry.name := by
  unfold imageOn at h
  split at h
  case isFalse => cases h
  case isTrue hconnected =>
    obtain ⟨superblock, hsuperblock, hmap⟩ := Option.bind_eq_some_iff.mp h
    obtain ⟨directory, hdirectory, rfl⟩ := Option.map_eq_some_iff.mp hmap
    have hharmless := htable hconnected superblock hsuperblock
    refine ⟨hharmless.blockSize_ne, fun entry hentry => ?_⟩
    obtain ⟨table, htableOn, rfl⟩ := Option.map_eq_some_iff.mp hdirectory
    obtain ⟨i, hi, rfl⟩ := List.mem_map.mp (List.mem_filter.mp hentry).1
    have hsize : tableSize superblock ≠ 0 := by
      intro hzero
      rw [tableOn, if_neg fun hboth => hboth.1 hzero] at htableOn
      cases htableOn
    have hinside := (entries_inside_iff hharmless.blockSize_ne hsize).mpr
      (hharmless.entries (by rw [htableOn]; rfl)) i (List.mem_range.mp hi)
    have hlength : table.length = tableSize superblock := by
      unfold tableOn at htableOn
      split at htableOn
      · cases htableOn
        rw [Transfer.length_left] <;> rw [List.length_replicate]
        exact hharmless.fits hsize
      · cases htableOn
    have hname : (field (field table (entryOffset i) DIRENT_SIZE.toNat) 0 MAX_FILENAME_LENGTH).length =
        MAX_FILENAME_LENGTH := by
      have hsixtyfour : DIRENT_SIZE.toNat = 64 := rfl
      have hfortyeight : MAX_FILENAME_LENGTH = 48 := rfl
      rw [field, field, List.length_take, List.length_drop, List.length_take, List.length_drop, hsixtyfour, hfortyeight]
      omega
    show (List.set _ _ _).length = _ ∧ 0 ∈ List.set _ _ _
    rw [List.length_set]
    refine ⟨hname, List.mem_set ?_ _⟩
    rw [hname]
    decide

end Mount

/-! ## Reading a file -/

section Read
variable {δ : Type} [IStorageDevice δ] [ByteStore δ] [PlannedReads δ] {d : δ} {blockSize : UInt32}

/-- A block is read into a buffer of the image's block size. -/
theorem readBlock_of_fits (hpos : 0 < blockSize.toNat) {block : UInt64}
    (h : (transfer d block 1).Fits blockSize.toNat) :
    IStorageDevice.readBlocks d block 1 (List.replicate blockSize.toNat 0) =
      .returned (transfer d block 1).result ((transfer d block 1).left (List.replicate blockSize.toNat 0)) := by
  rw [PlannedReads.readBlocks_eq d block 1 (zeros_ne_nil (Nat.ne_of_gt hpos))]
  refine Transfer.into_of_fits ?_
  rw [List.length_replicate]
  exact h

theorem readBlock_of_not_fits (hpos : 0 < blockSize.toNat) {block : UInt64}
    (h : ¬ (transfer d block 1).Fits blockSize.toNat) :
    IStorageDevice.readBlocks d block 1 (List.replicate blockSize.toNat 0) = .undefined := by
  rw [PlannedReads.readBlocks_eq d block 1 (zeros_ne_nil (Nat.ne_of_gt hpos))]
  refine Transfer.into_of_not_fits ?_
  rw [List.length_replicate]
  exact h

/-- One round of the loop, behind the read of its block. -/
def copyRound (d : δ) (blockSize : UInt32) (fuel : Nat) (currentBlock copyOffset remaining : UInt64)
    (read : Int64 × List UInt8) : Except Stop (Option (List UInt8)) :=
  if read.1 ≠ 1 then .ok none
  else
    let copySize := min (blockSize.toUInt64 - copyOffset) remaining
    copyBlocks d blockSize fuel (currentBlock + 1) 0 (remaining - copySize) >>= fun rest =>
      .ok (rest.map (field read.2 copyOffset.toNat copySize.toNat ++ ·))

theorem copyBlocks_succ (d : δ) (blockSize : UInt32) (fuel : Nat) {currentBlock copyOffset remaining : UInt64}
    (h : remaining ≠ 0) : copyBlocks d blockSize (fuel + 1) currentBlock copyOffset remaining =
      (IStorageDevice.readBlocks d currentBlock 1 (List.replicate blockSize.toNat 0)).result >>=
        copyRound d blockSize fuel currentBlock copyOffset remaining := if_neg h

/-- **The loop ends** with as many bytes as were asked for, or with a block that cannot be read. -/
theorem copyBlocks_ok (hpos : 0 < blockSize.toNat) :
    ∀ (fuel : Nat) (currentBlock copyOffset remaining : UInt64), copyOffset.toNat < blockSize.toNat →
      remaining.toNat ≤ fuel →
      (∀ j, j * blockSize.toNat < copyOffset.toNat + remaining.toNat →
        (transfer d (currentBlock + UInt64.ofNat j) 1).Fits blockSize.toNat) →
      ∃ result, copyBlocks d blockSize fuel currentBlock copyOffset remaining = .ok result ∧
        ∀ bytes, result = some bytes → bytes.length = remaining.toNat := by
  intro fuel
  induction fuel with
  | zero =>
      intro currentBlock copyOffset remaining _ hfuel _
      refine ⟨some [], rfl, fun bytes hbytes => ?_⟩
      cases hbytes
      rw [List.length_nil]
      omega
  | succ fuel ih =>
      intro currentBlock copyOffset remaining hoffset hfuel hfits
      by_cases hzero : remaining = 0
      · subst hzero
        refine ⟨some [], if_pos rfl, fun bytes hbytes => ?_⟩
        cases hbytes
        rfl
      have hremaining : 0 < remaining.toNat := Nat.pos_of_ne_zero fun h => hzero (UInt64.toNat_inj.mp h)
      have hfirst : (transfer d currentBlock 1).Fits blockSize.toNat := by
        have := hfits 0 (by omega)
        rwa [show UInt64.ofNat 0 = 0 from rfl, UInt64.add_zero] at this
      rw [copyBlocks_succ d blockSize fuel hzero, readBlock_of_fits hpos hfirst]
      show ∃ result, copyRound d blockSize fuel currentBlock copyOffset remaining (_, _) = _ ∧ _
      rw [copyRound]
      split
      · exact ⟨none, rfl, fun bytes hbytes => (nomatch hbytes)⟩
      dsimp only
      -- what is copied from this block
      have hle : copyOffset ≤ blockSize.toUInt64 := by
        rw [UInt64.le_iff_toNat_le, UInt32.toNat_toUInt64]
        exact hoffset.le
      have hcopy : (min (blockSize.toUInt64 - copyOffset) remaining).toNat =
          min (blockSize.toNat - copyOffset.toNat) remaining.toNat := by
        rw [Lib.Words.toNat_min, UInt64.toNat_sub_of_le _ _ hle, UInt32.toNat_toUInt64]
      have hcopyle : min (blockSize.toUInt64 - copyOffset) remaining ≤ remaining := by
        rw [UInt64.le_iff_toNat_le, hcopy]
        exact Nat.min_le_right _ _
      have hleft : (remaining - min (blockSize.toUInt64 - copyOffset) remaining).toNat =
          remaining.toNat - min (blockSize.toNat - copyOffset.toNat) remaining.toNat := by
        rw [UInt64.toNat_sub_of_le _ _ hcopyle, hcopy]
      have hnext : ∀ j, j * blockSize.toNat < (0 : UInt64).toNat +
            (remaining - min (blockSize.toUInt64 - copyOffset) remaining).toNat →
          (transfer d (currentBlock + 1 + UInt64.ofNat j) 1).Fits blockSize.toNat := by
        intro j hj
        rw [hleft, UInt64.toNat_zero] at hj
        have hj' := hfits (j + 1) (by rw [Nat.succ_mul]; omega)
        have hadd : currentBlock + 1 + UInt64.ofNat j = currentBlock + UInt64.ofNat (j + 1) := by
          rw [UInt64.ofNat_add, UInt64.add_assoc, UInt64.add_comm 1]
          rfl
        rwa [hadd]
      obtain ⟨rest, hrest, hlength⟩ := ih (currentBlock + 1) 0
        (remaining - min (blockSize.toUInt64 - copyOffset) remaining) hpos (by rw [hleft]; omega) hnext
      rw [hrest]
      refine ⟨_, rfl, fun bytes hbytes => ?_⟩
      obtain ⟨behind, rfl, rfl⟩ := Option.map_eq_some_iff.mp hbytes
      have hblock : ((transfer d currentBlock 1).left (List.replicate blockSize.toNat 0)).length = blockSize.toNat := by
        rw [Transfer.length_left] <;> rw [List.length_replicate]
        exact hfirst
      rw [List.length_append, hlength behind rfl, hleft, hcopy, field, List.length_take, List.length_drop, hblock]
      omega

/-- A first block whose call gives another result than one ends the loop. -/
theorem copyBlocks_none (hpos : 0 < blockSize.toNat) {fuel : Nat} {currentBlock copyOffset remaining : UInt64}
    (hremaining : remaining ≠ 0) (hfits : (transfer d currentBlock 1).Fits blockSize.toNat)
    (hresult : (transfer d currentBlock 1).result ≠ 1) :
    copyBlocks d blockSize (fuel + 1) currentBlock copyOffset remaining = .ok none := by
  rw [copyBlocks_succ d blockSize fuel hremaining, readBlock_of_fits hpos hfits]
  exact if_pos hresult

/-! ### The call -/

variable {fs : SimpleReadOnlyFS} {path : Text} {size offset : UInt64} {entry : DirEntry}

/-- A call that gets as far as the blocks of a file. -/
structure Begun (fs : SimpleReadOnlyFS) (path : Text) (size offset : UInt64) (entry : DirEntry) : Prop where
  size_ne : size ≠ 0
  found : findEntry fs path = some entry
  isFile : entry.type = 0
  inside : offset < entry.size

/-- A call that does not delivers nothing. -/
theorem readFile_of_not_begun (d : δ) (h : ¬ ∃ entry, Begun fs path size offset entry) :
    ∃ count, readFile d fs path size offset = .ok (count, []) := by
  rw [readFile]
  by_cases hsize : size = 0
  · exact ⟨-1, if_pos hsize⟩
  rw [if_neg hsize]
  cases hfound : findEntry fs path with
  | none => exact ⟨-1, rfl⟩
  | some entry =>
      dsimp only
      split
      · exact ⟨-1, rfl⟩
      case isFalse htype =>
        split
        · exact ⟨0, rfl⟩
        case isFalse hinside =>
          refine absurd ⟨entry, hsize, hfound, ?_, ?_⟩ h
          · simpa using htype
          · exact UInt64.not_le.mp hinside

/-- A call that does is the loop over its blocks. -/
theorem readFile_of_begun (d : δ) (h : Begun fs path size offset entry) (hblock : fs.superblock.blockSize ≠ 0) :
    readFile d fs path size offset =
      copyBlocks d fs.superblock.blockSize (min size (entry.size - offset)).toNat
          (entry.dataBlock.toUInt64 + offset / fs.superblock.blockSize.toUInt64)
          (offset % fs.superblock.blockSize.toUInt64) (min size (entry.size - offset)) >>= fun copied =>
        .ok (match copied with
          | none => (-1, [])
          | some bytes => ((min size (entry.size - offset)).toInt64, bytes)) := by
  have hinside : ¬ offset ≥ entry.size := UInt64.not_le.mpr h.inside
  rw [readFile, if_neg h.size_ne, h.found]
  dsimp only
  rw [if_neg (not_not_intro h.isFile), if_neg hinside, if_neg hblock]
  refine congrArg _ ?_
  funext copied
  cases copied <;> rfl

/-- How much is asked for, and where. -/
theorem Begun.facts (h : Begun fs path size offset entry) (hpos : 0 < fs.superblock.blockSize.toNat) :
    (min size (entry.size - offset)).toNat = min size.toNat (entry.size.toNat - offset.toNat) ∧
      (offset % fs.superblock.blockSize.toUInt64).toNat < fs.superblock.blockSize.toNat ∧
      ∀ j, j * fs.superblock.blockSize.toNat < (offset % fs.superblock.blockSize.toUInt64).toNat +
          (min size (entry.size - offset)).toNat →
        entry.dataBlock.toUInt64 + offset / fs.superblock.blockSize.toUInt64 + UInt64.ofNat j =
            blockOf entry (offset.toNat / fs.superblock.blockSize.toNat + j) ∧
          (offset.toNat / fs.superblock.blockSize.toNat + j) * fs.superblock.blockSize.toNat < entry.size.toNat := by
  have hinside := UInt64.lt_iff_toNat_lt.mp h.inside
  have hasked : (min size (entry.size - offset)).toNat = min size.toNat (entry.size.toNat - offset.toNat) := by
    rw [Lib.Words.toNat_min, UInt64.toNat_sub_of_le _ _ (UInt64.le_iff_toNat_le.mpr hinside.le)]
  have hmod : (offset % fs.superblock.blockSize.toUInt64).toNat = offset.toNat % fs.superblock.blockSize.toNat := by
    rw [UInt64.toNat_mod, UInt32.toNat_toUInt64]
  refine ⟨hasked, ?_, fun j hj => ⟨?_, ?_⟩⟩
  · rw [hmod]
    exact Nat.mod_lt _ hpos
  · have hquotient : UInt64.ofNat (offset.toNat / fs.superblock.blockSize.toNat) =
        offset / fs.superblock.blockSize.toUInt64 := by
      rw [← UInt64.toNat_inj, UInt64.toNat_div, UInt32.toNat_toUInt64]
      exact UInt64.toNat_ofNat_of_lt' (Nat.lt_of_le_of_lt (Nat.div_le_self _ _) offset.toNat_lt)
    rw [blockOf, UInt64.ofNat_add, hquotient, UInt64.add_assoc]
  · rw [hasked, hmod] at hj
    have hdivision := Nat.div_add_mod offset.toNat fs.superblock.blockSize.toNat
    rw [Nat.mul_comm] at hdivision
    rw [Nat.add_mul]
    omega

/-- A block that is read ends a loop of one round with its bytes. -/
theorem copyBlocks_one (hpos : 0 < blockSize.toNat) {currentBlock copyOffset remaining : UInt64}
    (hremaining : remaining ≠ 0) (hfits : (transfer d currentBlock 1).Fits blockSize.toNat)
    (hresult : (transfer d currentBlock 1).result = 1) :
    ∃ bytes, copyBlocks d blockSize 1 currentBlock copyOffset remaining = .ok (some bytes) := by
  rw [copyBlocks_succ d blockSize 0 hremaining, readBlock_of_fits hpos hfits]
  show ∃ bytes, copyRound d blockSize 0 currentBlock copyOffset remaining (_, _) = _
  rw [copyRound, if_neg (not_not_intro hresult)]
  exact ⟨_, rfl⟩

/-- One byte of a file, at the beginning of any of its blocks. -/
theorem begun_at (hfound : findEntry fs path = some entry) (htype : entry.type = 0) {i : Nat}
    (hpos : 0 < fs.superblock.blockSize.toNat) (hi : i * fs.superblock.blockSize.toNat < entry.size.toNat) :
    Begun fs path 1 (UInt64.ofNat (i * fs.superblock.blockSize.toNat)) entry ∧
      entry.dataBlock.toUInt64 + UInt64.ofNat (i * fs.superblock.blockSize.toNat) / fs.superblock.blockSize.toUInt64 =
        blockOf entry i ∧
      (min 1 (entry.size - UInt64.ofNat (i * fs.superblock.blockSize.toNat))).toNat = 1 := by
  have hsize := entry.size.toNat_lt
  have hoffset : (UInt64.ofNat (i * fs.superblock.blockSize.toNat)).toNat = i * fs.superblock.blockSize.toNat :=
    UInt64.toNat_ofNat_of_lt' (Nat.lt_trans hi hsize)
  have hbegun : Begun fs path 1 (UInt64.ofNat (i * fs.superblock.blockSize.toNat)) entry := by
    refine ⟨by decide, hfound, htype, ?_⟩
    rw [UInt64.lt_iff_toNat_lt, hoffset]
    exact hi
  refine ⟨hbegun, ?_, ?_⟩
  · rw [blockOf]
    congr 1
    have hle : i ≤ i * fs.superblock.blockSize.toNat := Nat.le_mul_of_pos_right i hpos
    rw [← UInt64.toNat_inj, UInt64.toNat_div, hoffset, UInt32.toNat_toUInt64, Nat.mul_div_cancel _ hpos]
    exact (UInt64.toNat_ofNat_of_lt' (by show i < 2 ^ 64; omega)).symm
  · rw [(hbegun.facts hpos).1, hoffset, UInt64.toNat_one]
    omega

/-- A file is read for every size and offset if it is harmless. -/
theorem readFile_of_harmless (hblock : fs.superblock.blockSize ≠ 0) (hbegun : Begun fs path size offset entry)
    (h : FileHarmless d fs entry) :
    ∃ count bytes, readFile d fs path size offset = .ok (count, bytes) ∧ bytes.length ≤ size.toNat ∧
      (fs.superblock.blockSize.toNat ≠ (shape d).blockSize → bytes = []) := by
  have hpos : 0 < fs.superblock.blockSize.toNat := Nat.pos_of_ne_zero fun hzero => hblock (UInt32.toNat_inj.mp hzero)
  obtain ⟨hasked, hoffset, hblocks⟩ := hbegun.facts hpos
  have hfits : ∀ j, j * fs.superblock.blockSize.toNat < (offset % fs.superblock.blockSize.toUInt64).toNat +
        (min size (entry.size - offset)).toNat →
      (transfer d (entry.dataBlock.toUInt64 + offset / fs.superblock.blockSize.toUInt64 + UInt64.ofNat j) 1).Fits
        fs.superblock.blockSize.toNat := by
    intro j hj
    obtain ⟨hblockOf, hinside⟩ := hblocks j hj
    rw [hblockOf]
    exact h.fits _ hinside
  obtain ⟨result, hcopied, hlength⟩ := copyBlocks_ok hpos (min size (entry.size - offset)).toNat
    (entry.dataBlock.toUInt64 + offset / fs.superblock.blockSize.toUInt64) (offset % fs.superblock.blockSize.toUInt64)
    (min size (entry.size - offset)) hoffset le_rfl hfits
  rw [readFile_of_begun d hbegun hblock, hcopied]
  cases result with
  | none => exact ⟨-1, [], rfl, Nat.zero_le _, fun _ => rfl⟩
  | some bytes =>
      refine ⟨_, bytes, rfl, ?_, fun hdiffers => ?_⟩
      · rw [hlength bytes rfl, hasked]
        exact Nat.min_le_left _ _
      · -- no block can be read, so the loop cannot have ended with bytes
        exfalso
        have hsizes := UInt64.lt_iff_toNat_lt.mp hbegun.inside
        have hsize : 0 < size.toNat := Nat.pos_of_ne_zero fun hzero => hbegun.size_ne (UInt64.toNat_inj.mp hzero)
        have hremaining : min size (entry.size - offset) ≠ 0 := by
          intro hzero
          rw [hzero, UInt64.toNat_zero] at hasked
          omega
        obtain ⟨hblockOf, hinside⟩ := hblocks 0 (by omega)
        have hfirst := hfits 0 (by omega)
        have hresult := h.fails hdiffers _ hinside
        rw [← hblockOf] at hresult
        rw [show UInt64.ofNat 0 = 0 from rfl, UInt64.add_zero] at hfirst hresult
        obtain ⟨fuel, hfuel⟩ : ∃ fuel, (min size (entry.size - offset)).toNat = fuel + 1 :=
          Nat.exists_eq_succ_of_ne_zero (by omega)
        rw [hfuel, copyBlocks_none hpos hremaining hfirst hresult] at hcopied
        cases hcopied

/-- A file that is read for every size and offset is harmless. -/
theorem fileHarmless_of_reads (hblock : fs.superblock.blockSize ≠ 0) (hfound : findEntry fs path = some entry)
    (htype : entry.type = 0)
    (hreads : ∀ size offset, ∃ count bytes, readFile d fs path size offset = .ok (count, bytes))
    (hfails : fs.superblock.blockSize.toNat ≠ (shape d).blockSize → ∀ size offset count bytes,
      readFile d fs path size offset = .ok (count, bytes) → bytes = []) : FileHarmless d fs entry := by
  have hpos : 0 < fs.superblock.blockSize.toNat := Nat.pos_of_ne_zero fun hzero => hblock (UInt32.toNat_inj.mp hzero)
  have hone : ∀ i, i * fs.superblock.blockSize.toNat < entry.size.toNat →
      readFile d fs path 1 (UInt64.ofNat (i * fs.superblock.blockSize.toNat)) =
          (copyBlocks d fs.superblock.blockSize 1 (blockOf entry i)
            (UInt64.ofNat (i * fs.superblock.blockSize.toNat) % fs.superblock.blockSize.toUInt64)
            (min 1 (entry.size - UInt64.ofNat (i * fs.superblock.blockSize.toNat))) >>= fun copied =>
          .ok (match copied with
            | none => (-1, [])
            | some bytes => ((min 1 (entry.size - UInt64.ofNat (i * fs.superblock.blockSize.toNat))).toInt64, bytes))) ∧
        min 1 (entry.size - UInt64.ofNat (i * fs.superblock.blockSize.toNat)) ≠ 0 := by
    intro i hi
    obtain ⟨hbegun, hblockOf, hasked⟩ := begun_at hfound htype hpos hi
    refine ⟨?_, fun hzero => ?_⟩
    · rw [readFile_of_begun d hbegun hblock, hasked, hblockOf]
    · rw [hzero] at hasked
      cases hasked
  have hfits : ∀ i, i * fs.superblock.blockSize.toNat < entry.size.toNat →
      (transfer d (blockOf entry i) 1).Fits fs.superblock.blockSize.toNat := by
    intro i hi
    obtain ⟨heq, hremaining⟩ := hone i hi
    obtain ⟨count, bytes, hread⟩ := hreads 1 (UInt64.ofNat (i * fs.superblock.blockSize.toNat))
    by_contra hnot
    rw [heq, copyBlocks_succ d _ 0 hremaining, readBlock_of_not_fits hpos hnot] at hread
    cases hread
  refine ⟨hfits, fun hdiffers i hi hresult => ?_⟩
  obtain ⟨heq, hremaining⟩ := hone i hi
  obtain ⟨hbegun, -, hasked⟩ := begun_at hfound htype hpos hi
  have hoffset := (hbegun.facts hpos).2.1
  -- a block that is read gives the byte that was asked for
  obtain ⟨bytes, hcopied⟩ := @copyBlocks_one _ _ _ _ d fs.superblock.blockSize hpos (blockOf entry i)
    (UInt64.ofNat (i * fs.superblock.blockSize.toNat) % fs.superblock.blockSize.toUInt64) _ hremaining (hfits i hi) hresult
  obtain ⟨result, hended, hlength⟩ := copyBlocks_ok hpos 1 (blockOf entry i)
    (UInt64.ofNat (i * fs.superblock.blockSize.toNat) % fs.superblock.blockSize.toUInt64)
    (min 1 (entry.size - UInt64.ofNat (i * fs.superblock.blockSize.toNat))) hoffset hasked.le (by
      intro j hj
      have hzero : j = 0 := by
        by_contra hne
        have : fs.superblock.blockSize.toNat ≤ j * fs.superblock.blockSize.toNat :=
          Nat.le_mul_of_pos_left _ (Nat.pos_of_ne_zero hne)
        omega
      subst hzero
      rw [show UInt64.ofNat 0 = 0 from rfl, UInt64.add_zero]
      exact hfits i hi)
  rw [hcopied] at hended heq
  cases hended
  have hnil := hfails hdiffers 1 (UInt64.ofNat (i * fs.superblock.blockSize.toNat)) _ bytes heq
  have hbyte := hlength bytes rfl
  rw [hnil, hasked] at hbyte
  cases hbyte

end Read

/-! ## All images -/

section Survival
variable {δ : Type} [IStorageDevice δ] [ByteStore δ] [PlannedReads δ]

/-- **An image is survived if and only if it is harmless.** -/
theorem survives_iff (d : δ) : Survives d ↔ Harmless d := by
  constructor
  · intro h
    obtain ⟨hsuperblock, htable⟩ := (mount_ok_iff d).mp h.mounts
    refine ⟨hsuperblock, htable, fun fs hfs path entry hfound htype => ?_⟩
    obtain ⟨result, hmount⟩ := h.mounts
    have hmounted : mount d = .ok (some fs) := by
      rw [hmount, mount_eq_imageOn hmount, hfs]
    refine fileHarmless_of_reads (imageOn_facts htable hfs).1 hfound htype (fun size offset => ?_)
      fun hdiffers => h.fails fs hmounted hdiffers path
    obtain ⟨count, bytes, hread, -⟩ := h.reads fs hmounted path size offset
    exact ⟨count, bytes, hread⟩
  · intro h
    have hmounted : ∀ fs, mount d = .ok (some fs) → imageOn d = some fs := fun fs hmount =>
      (mount_eq_imageOn hmount).symm
    have hreads : ∀ fs, mount d = .ok (some fs) → ∀ path size offset, ∃ count bytes,
        readFile d fs path size offset = .ok (count, bytes) ∧ bytes.length ≤ size.toNat ∧
          (fs.superblock.blockSize.toNat ≠ (shape d).blockSize → bytes = []) := by
      intro fs hmount path size offset
      have hfs := hmounted fs hmount
      by_cases hbegun : ∃ entry, Begun fs path size offset entry
      · obtain ⟨entry, hentry⟩ := hbegun
        exact readFile_of_harmless (imageOn_facts h.table hfs).1 hentry
          (h.files fs hfs path entry hentry.found hentry.isFile)
      · obtain ⟨count, hread⟩ := readFile_of_not_begun d hbegun
        exact ⟨count, [], hread, Nat.zero_le _, fun _ => rfl⟩
    refine ⟨(mount_ok_iff d).mpr ⟨h.superblock, h.table⟩, fun fs hmount => (imageOn_facts h.table (hmounted fs hmount)).2,
      fun fs hmount path size offset => ?_, fun fs hmount hdiffers path size offset count bytes hread => ?_⟩
    · obtain ⟨count, bytes, hread, hlength, -⟩ := hreads fs hmount path size offset
      exact ⟨count, bytes, hread, hlength⟩
    · obtain ⟨count', bytes', hread', -, hnothing⟩ := hreads fs hmount path size offset
      rw [hread] at hread'
      cases hread'
      exact hnothing hdiffers

end Survival

/-- **Hostile images**, on each of the devices in memory. -/
theorem hostileImage_iff (device : VirtualBlockDevice) (disk : MemoryBackedDisk) (ramdisk : InitramfsDevice) :
    (Survives device ↔ Harmless device) ∧ (Survives disk ↔ Harmless disk) ∧ (Survives ramdisk ↔ Harmless ramdisk) := by
  refine ⟨?_, ?_, ?_⟩
  · exact survives_iff device
  · exact survives_iff disk
  · exact survives_iff ramdisk

/-- A device with one sector of 4096 bytes. -/
def largeSectors : VirtualBlockDevice where
  sectorSize := 4096
  connected := true
  memoryBuffer := List.replicate 4096 0
  length_le := by rw [List.length_replicate]; decide

/-- Its first sector does not fit the buffer for the superblock, whatever it holds. -/
theorem hostileImage_overflows :
    mount largeSectors = .error .undefined ∧ ¬ ∀ device : VirtualBlockDevice, Survives device := by
  have htransfer : ¬ (transfer largeSectors 0 1).Fits SUPERBLOCK_SIZE := by
    show ¬ (VirtualBlockDevice.transfer largeSectors 0 1).Fits SUPERBLOCK_SIZE
    decide +kernel
  have hmount : mount largeSectors = .error .undefined := by
    have hconnected : ¬ (!isConnected largeSectors) = true := fun hoff => nomatch hoff
    rw [mount, if_neg hconnected, readSuperblock_of_not_fits htransfer]
    rfl
  refine ⟨hmount, fun h => ?_⟩
  obtain ⟨result, hok⟩ := (h largeSectors).mounts
  rw [hmount] at hok
  cases hok

end GuideXOS.Storage.SimpleReadOnlyFS
