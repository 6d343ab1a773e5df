import GuideXOS.Storage.ReadOnlyImage

/-!
# `ImageRoundTrip` — when an image is read back

A device that keeps an image (`IsImage`) is mounted, listed and read: the superblock and the table are decoded again, and
the blocks behind an entry are the content of its file. What this needs is that the table has a block at all, since a
device does not read no blocks, and that a block fits the buffer of 512 bytes that the superblock is read into. Even then
the number of blocks in the superblock, rounded once for all files, may fall short of blocks that each file has to itself.
-/

namespace GuideXOS.Storage.SimpleReadOnlyFS
open Core Lib Lib.Blocks Lib.Words

/-! ## Mounting -/

section Reading
variable {δ : Type _} [IStorageDevice δ] [BlockStore δ] {image : δ} {count : Nat} {files : Files}
  {content : Nat → List UInt8} {directory : List DirEntry} {file : Text × List UInt8} {superblock : Superblock}

theorem readBlock_holds {n : UInt64} {buffer : List UInt8} (h : Holds image 512 count content) (hn : n.toNat < count)
    (hbuffer : buffer.length = 512) : IStorageDevice.readBlocks image n 1 buffer = .returned 1 (content n.toNat) := by
  have hone : (1 : UInt64).toNat = 1 := rfl
  have hfits : (1 : UInt64).toNat * BlockStore.blockBytes image ≤ buffer.length := by
    rw [h.blockBytes, hbuffer, hone]
  rw [BlockStore.readBlocks_fits h.connected (hone ▸ Nat.one_pos) (by rw [h.blockCount, hone]; exact hn)
    (by rw [h.blockBytes]; decide) hfits, h.blockBytes, hone, List.drop_eq_nil_of_le (by omega), List.append_nil,
    List.range'_one, List.flatMap_singleton, h.block]
  rfl

theorem readSuperblock_image (h : IsImage image count files content directory) (hcount : 0 < count) :
    readSuperblock image = .ok (some (superblockOf files 512)) := by
  have hvalid : (superblockOf files 512).isValid = true := rfl
  have hread := readBlock_holds (n := 0) h.holds hcount (List.length_replicate (a := 0) (n := SUPERBLOCK_SIZE))
  rw [readSuperblock, hread]
  simp only [Outcome.result, bind, Except.bind]
  rw [show (0 : UInt64).toNat = 0 from rfl, h.superblock,
    Superblock.deserialize_serialize (superblockOf_sized files 512), if_pos ⟨trivial, hvalid⟩]

/-- The blocks of the table are its bytes and zeros behind them. -/
theorem readTable_image (h : IsImage image count files content directory) :
    ∃ padding, (List.range' 1 (dirBlocks 512 files)).flatMap (BlockStore.block image) =
      SimpleReadOnlyFS.table directory ++ padding := by
  have hlength : directory.length = files.entries.length := h.stored.length_eq
  have hblocks : (List.range' 1 (dirBlocks 512 files)).map (BlockStore.block image) =
      blocksOf 512 (SimpleReadOnlyFS.table directory) := by
    rw [blocksOf, length_table h.sized, hlength, List.range'_eq_map_range, List.map_map, dirBlocks]
    refine List.map_congr_left ?_
    intro i hi
    rw [Function.comp_apply, h.holds.block]
    exact h.table i (List.mem_range.mp hi)
  rw [List.flatMap_def, hblocks, flatten_blocksOf (by decide)]
  exact ⟨_, rfl⟩

/-- A loop that finds the elements of a list in their places gives the list. -/
theorem mapM_range {ε α : Type _} {f : Nat → Except ε α} {l : List α} (h : ∀ i a, l[i]? = some a → f i = .ok a) :
    (List.range l.length).mapM f = .ok l := by
  induction l generalizing f with
  | nil => rfl
  | cons a l ih =>
      have hrest := ih (f := f ∘ Nat.succ) fun i b hb => h (i + 1) b hb
      rw [List.length_cons, List.range_succ_eq_map, List.mapM_cons, h 0 a rfl, List.mapM_map, hrest]
      rfl

theorem exists_of_stored {entries : List DirEntry} {files : List (Text × List UInt8)}
    (h : List.Forall₂ (Stored count content) entries files) {entry : DirEntry} (hentry : entry ∈ entries) :
    ∃ file ∈ files, Stored count content entry file := by
  induction h with
  | nil => exact absurd hentry List.not_mem_nil
  | @cons first file entries files hfirst hrest ih =>
      rcases List.mem_cons.mp hentry with rfl | hentry
      · exact ⟨file, List.mem_cons_self, hfirst⟩
      · obtain ⟨found, hfound, hstored⟩ := ih hentry
        exact ⟨found, List.mem_cons_of_mem _ hfound, hstored⟩

theorem readDirectory_image (h : IsImage image count files content directory) (hfits : Fits 512 files)
    (hnames : ∀ file ∈ files.entries, IsFileName file.1) (hnonempty : files.entries ≠ [])
    (henough : 1 + dirBlocks 512 files ≤ count) :
    readDirectory image (superblockOf files 512) = .ok (some directory) := by
  have hentries := hfits.entries
  have hdirBlocks : dirBlocks 512 files * 512 < files.entries.length * 64 + 512 := blockCount_mul_lt (by decide) _
  have hpos : 0 < dirBlocks 512 files :=
    (blockCount_pos_iff (by decide)).mpr (Nat.mul_pos (List.length_pos_iff.mpr hnonempty) (by decide))
  have hlength : directory.length = files.entries.length := h.stored.length_eq
  obtain ⟨padding, htable⟩ := readTable_image h
  have hcount : (UInt32.ofNat (dirBlocks 512 files)).toUInt64.toNat = dirBlocks 512 files :=
    UInt32.toNat_ofNat_of_lt' (show _ < 2 ^ 32 by omega)
  have hbuffer : (UInt32.ofNat (dirBlocks 512 files) * 512).toNat = dirBlocks 512 files * 512 := by
    rw [UInt32.toNat_mul, UInt32.toNat_ofNat_of_lt' (show _ < 2 ^ 32 by omega)]
    exact Nat.mod_eq_of_lt (show dirBlocks 512 files * 512 < 2 ^ 32 by omega)
  have hone : (1 : UInt64).toNat = 1 := rfl
  have hread := @BlockStore.readBlocks_fits δ _ _ image 1 (UInt32.ofNat (dirBlocks 512 files)).toUInt64
    (List.replicate (UInt32.ofNat (dirBlocks 512 files) * 512).toNat 0) h.holds.connected
    (by rw [hcount]; exact hpos) (by rw [hcount, h.holds.blockCount, hone]; exact henough)
    (by rw [h.holds.blockBytes]; decide) (by rw [hcount, h.holds.blockBytes, List.length_replicate, hbuffer])
  rw [hcount, hone, htable, List.append_assoc] at hread
  have hdirEntries : (superblockOf files 512).dirEntries = UInt32.ofNat files.entries.length := rfl
  have hrange : (superblockOf files 512).dirEntries.toNat = directory.length := by
    rw [hdirEntries, hlength]
    exact UInt32.toNat_ofNat_of_lt' (show _ < 2 ^ 32 by omega)
  have hsize : (superblockOf files 512).blockSize = 512 := rfl
  have hdir : (superblockOf files 512).dirBlock = 1 := rfl
  have hparsed : (List.range directory.length).mapM (entryAt (SimpleReadOnlyFS.table directory ++ (padding ++
      (List.replicate (UInt32.ofNat (dirBlocks 512 files) * 512).toNat 0).drop
        (dirBlocks 512 files * BlockStore.blockBytes image)))) = .ok directory :=
    mapM_range fun i entry hi => entryAt_table h.sized (by omega) hi
  have hkept : directory.filter (fun entry => entry.name.headD 0 ≠ 0) = directory := by
    refine List.filter_eq_self.mpr ?_
    intro entry hentry
    obtain ⟨file, hfile, hstored⟩ := exists_of_stored h.stored hentry
    rw [hstored.name]
    exact decide_eq_true (headD_nameField (hnames file hfile))
  rw [readDirectory, hrange, hdirEntries, hsize, hdir, directoryBlocks_eq hfits, if_neg (by decide)]
  dsimp only
  rw [hread]
  simp only [Outcome.result, bind, Except.bind]
  rw [if_neg (not_not.mpr rfl), hparsed]
  exact congrArg (Except.ok ∘ some) hkept

theorem mount_image (h : IsImage image count files content directory) (hfits : Fits 512 files)
    (hnames : ∀ file ∈ files.entries, IsFileName file.1) (hnonempty : files.entries ≠ [])
    (henough : 1 + dirBlocks 512 files ≤ count) : mount image = .ok (some ⟨superblockOf files 512, directory⟩) := by
  rw [mount, h.holds.connected, if_neg (by decide), readSuperblock_image h (by omega)]
  simp only [bind, Except.bind]
  rw [readDirectory_image h hfits hnames hnonempty henough]

/-! ## Listing and finding -/

theorem listDirectory_stored (hstored : List.Forall₂ (Stored count content) directory files.entries)
    (hnames : ∀ file ∈ files.entries, IsFileName file.1) :
    listDirectory ⟨superblock, directory⟩ [slash] =
      some (files.entries.map fun file => ⟨file.1, false, UInt64.ofNat file.2.length⟩) := by
  have hroot : normalizePath [slash] = [slash] := rfl
  rw [listDirectory, hroot, if_neg (not_not.mpr rfl)]
  refine congrArg some ?_
  dsimp only
  generalize files.entries = entries at hstored hnames
  induction hstored with
  | nil => rfl
  | @cons entry file directory entries hentry hrest ih =>
      obtain ⟨hname, hnames⟩ := List.forall_mem_cons.mp hnames
      have hkept : entry.name.headD 0 ≠ 0 := by
        rw [hentry.name]
        exact headD_nameField hname
      have hgetName : entry.getName = file.1 := by
        rw [DirEntry.getName, hentry.name]
        exact takeWhile_nameField hname
      have hfilter := List.filter_cons_of_pos (p := fun entry : DirEntry => entry.name.headD 0 ≠ 0) (l := directory)
        (decide_eq_true hkept)
      rw [hfilter, List.map_cons, List.map_cons, ih hnames, hgetName, hentry.type, hentry.size]
      rfl

theorem normalizePath_name {name : Text} (h : IsFileName name) : normalizePath name = slash :: name := by
  have hslash : name ≠ [slash] := fun heq => h.noSlash (heq ▸ List.mem_singleton_self slash)
  have hhead : name.head? ≠ some slash := fun heq => h.noSlash (List.mem_of_head? heq)
  have hlast : name.reverse.dropWhile (· = slash) = name.reverse := by
    cases hreverse : name.reverse with
    | nil => rfl
    | cons byte rest =>
        have hbyte : byte ∈ name := List.mem_reverse.mp (hreverse ▸ List.mem_cons_self)
        have hother : byte ≠ slash := fun heq => h.noSlash (heq ▸ hbyte)
        exact List.dropWhile_cons_of_neg (by simpa using hother)
  have hrooted : ¬(name = [] ∨ name = [slash]) := fun hor => hor.elim h.nonempty hslash
  rw [normalizePath, if_neg hrooted, if_neg hhead]
  dsimp only
  rw [List.tail_cons, hlast, List.reverse_reverse]
  rfl

theorem findEntry_stored (superblock : Superblock) (h : List.Forall₂ (Stored count content) directory files.entries)
    (hnames : ∀ file ∈ files.entries, IsFileName file.1) (hfile : file ∈ files.entries) :
    ∃ entry, findEntry ⟨superblock, directory⟩ file.1 = some entry ∧ Stored count content entry file := by
  have hname := hnames file hfile
  have hfound : ∃ entry, directory.find? (·.getName = file.1) = some entry ∧ Stored count content entry file := by
    have hdistinct := Files.distinct files
    generalize files.entries = entries at h hnames hfile hdistinct
    induction h with
    | nil => exact absurd hfile List.not_mem_nil
    | @cons entry first directory entries hentry hrest ih =>
        obtain ⟨hfirst, hnames⟩ := List.forall_mem_cons.mp hnames
        obtain ⟨hother, hdistinct⟩ := List.pairwise_cons.mp hdistinct
        have hgetName : entry.getName = first.1 := by
          rw [DirEntry.getName, hentry.name]
          exact takeWhile_nameField hfirst
        rcases List.mem_cons.mp hfile with rfl | hfile
        · exact ⟨entry, List.find?_cons_of_pos (decide_eq_true hgetName), hentry⟩
        · rw [List.find?_cons_of_neg (by simpa [hgetName] using hother file hfile)]
          exact ih hnames hfile hdistinct
  obtain ⟨entry, hentry, hstored⟩ := hfound
  refine ⟨entry, ?_, hstored⟩
  have hhead : (slash :: file.1).head? = some slash := rfl
  rw [findEntry, normalizePath_name hname]
  dsimp only
  rw [if_pos hhead, List.tail_cons, if_neg hname.nonempty, hentry]

/-! ## Reading a file -/

/-- **The loop of `readFile`** gives the bytes from `pos` on. -/
theorem copyBlocks_stored {entry : DirEntry} (himage : Holds image 512 count content)
    (hstored : Stored count content entry file) (hlength : file.2.length ≤ 2 ^ 41) :
    ∀ (fuel pos : Nat) (currentBlock copyOffset remaining : UInt64),
      (remaining ≠ 0 → currentBlock.toNat = entry.dataBlock.toNat + pos / 512) →
      (remaining ≠ 0 → copyOffset.toNat = pos % 512) →
      remaining.toNat ≤ fuel → pos + remaining.toNat ≤ file.2.length →
      copyBlocks image 512 fuel currentBlock copyOffset remaining =
        .ok (some ((file.2.drop pos).take remaining.toNat)) := by
  intro fuel
  induction fuel with
  | zero =>
      intro pos currentBlock copyOffset remaining _ _ hfuel _
      rw [Nat.le_zero.mp hfuel, List.take_zero]
      rfl
  | succ fuel ih =>
      intro pos currentBlock copyOffset remaining hblock hoffset hfuel hpos
      by_cases hzero : remaining = 0
      · subst hzero
        rw [copyBlocks, if_pos rfl]
        exact congrArg (Except.ok ∘ some) (List.take_zero).symm
      · have hremaining : 0 < remaining.toNat := Nat.pos_of_ne_zero fun hnone => hzero (UInt64.toNat_inj.mp hnone)
        have hcurrent := hblock hzero
        have hcopy := hoffset hzero
        have hindex : pos / 512 < blockCount 512 file.2.length := (lt_blockCount_iff (by decide)).mpr (by omega)
        have hbuffer : (List.replicate (512 : UInt32).toNat (0 : UInt8)).length = 512 := List.length_replicate
        have hread := readBlock_holds himage (hcurrent ▸ hstored.within _ hindex) hbuffer
        rw [hcurrent, hstored.block _ hindex] at hread
        -- what is copied from this block
        have hroom : ((512 : UInt32).toUInt64 - copyOffset).toNat = 512 - pos % 512 := by
          rw [UInt64.toNat_sub_of_le _ _ (UInt64.le_iff_toNat_le.mpr (by rw [hcopy]; exact (Nat.mod_lt _ (by decide)).le)),
            hcopy]
          rfl
        have hsize : (min ((512 : UInt32).toUInt64 - copyOffset) remaining).toNat =
            min (512 - pos % 512) remaining.toNat := by
          rw [toNat_min, hroom]
        generalize hcopySize : min ((512 : UInt32).toUInt64 - copyOffset) remaining = copySize at hsize
        have hpiece : field (blockAt 512 file.2 (pos / 512)) copyOffset.toNat copySize.toNat =
            (file.2.drop pos).take copySize.toNat := by
          have hpos' : pos / 512 * 512 + pos % 512 = pos := Nat.div_add_mod' pos 512
          rw [field, hcopy, piece_blockAt (by omega) (by omega), hpos']
        have hleft : (remaining - copySize).toNat = remaining.toNat - copySize.toNat :=
          UInt64.toNat_sub_of_le _ _ (UInt64.le_iff_toNat_le.mpr (by omega))
        have hmore : remaining - copySize ≠ 0 → copySize.toNat = 512 - pos % 512 := by
          intro hne
          have : (remaining - copySize).toNat ≠ 0 := fun hnone => hne (UInt64.toNat_inj.mp hnone)
          omega
        have hrest : copyBlocks image 512 fuel (currentBlock + 1) 0 (remaining - copySize) =
            .ok (some ((file.2.drop (pos + copySize.toNat)).take (remaining - copySize).toNat)) := by
          refine ih (pos + copySize.toNat) _ _ _ ?_ ?_ (by omega) (by omega)
          · intro hne
            have hnext := hmore hne
            have hbound := entry.dataBlock.toNat_lt
            have hdiv : (pos + copySize.toNat) / 512 = pos / 512 + 1 := by omega
            rw [UInt64.toNat_add, hcurrent, hdiv]
            exact Nat.mod_eq_of_lt (show _ + 1 < 2 ^ 64 by omega)
          · intro hne
            have hnext := hmore hne
            exact (show 0 = (pos + copySize.toNat) % 512 by omega)
        rw [copyBlocks, if_neg hzero]
        dsimp only
        rw [hread]
        simp only [Outcome.result, bind, Except.bind]
        rw [if_neg (not_not.mpr rfl), hcopySize, hrest]
        simp only [Option.map_some]
        rw [hpiece, hleft, ← List.drop_drop, ← List.take_add, Nat.add_sub_cancel' (by omega)]

theorem readFile_stored (himage : Holds image 512 count content) (hblockSize : superblock.blockSize = 512)
    (h : List.Forall₂ (Stored count content) directory files.entries)
    (hnames : ∀ file ∈ files.entries, IsFileName file.1) (hfile : file ∈ files.entries)
    (hlength : file.2.length ≤ 2 ^ 41) {size : UInt64} (hsize : size ≠ 0) (offset : UInt64) :
    readFile image ⟨superblock, directory⟩ file.1 size offset =
      .ok (Int64.ofNat ((file.2.drop offset.toNat).take size.toNat).length,
        (file.2.drop offset.toNat).take size.toNat) := by
  obtain ⟨entry, hfound, hstored⟩ := findEntry_stored superblock h hnames hfile
  have hentry : entry.size.toNat = file.2.length := by
    rw [hstored.size]
    exact UInt64.toNat_ofNat_of_lt' (show _ < 2 ^ 64 by omega)
  rw [readFile, if_neg hsize, hfound]
  dsimp only
  rw [if_neg (not_not.mpr hstored.type)]
  by_cases hend : offset ≥ entry.size
  · have hle : file.2.length ≤ offset.toNat := hentry ▸ UInt64.le_iff_toNat_le.mp hend
    rw [if_pos hend, List.drop_eq_nil_of_le hle, List.take_nil]
    rfl
  · have hlt : offset.toNat < file.2.length := by
      rw [← hentry]
      exact UInt64.lt_iff_toNat_lt.mp (not_le.mp hend)
    have hleft : (entry.size - offset).toNat = file.2.length - offset.toNat := by
      rw [UInt64.toNat_sub_of_le _ _ (not_le.mp hend).le, hentry]
    have hbytes : (min size (entry.size - offset)).toNat = min size.toNat (file.2.length - offset.toNat) := by
      rw [toNat_min, hleft]
    have htake : (file.2.drop offset.toNat).take (min size (entry.size - offset)).toNat =
        (file.2.drop offset.toNat).take size.toNat := by
      rw [hbytes, ← List.length_drop, ← List.take_take, List.take_length]
    have hpiece : ((file.2.drop offset.toNat).take size.toNat).length = (min size (entry.size - offset)).toNat := by
      rw [hbytes, List.length_take, List.length_drop]
    have hcurrent : (entry.dataBlock.toUInt64 + offset / (512 : UInt32).toUInt64).toNat =
        entry.dataBlock.toNat + offset.toNat / 512 := by
      have hbound := entry.dataBlock.toNat_lt
      have hdiv : (offset / (512 : UInt32).toUInt64).toNat = offset.toNat / 512 := UInt64.toNat_div _ _
      rw [UInt64.toNat_add, hdiv, UInt32.toNat_toUInt64]
      exact Nat.mod_eq_of_lt (show _ < 2 ^ 64 by omega)
    generalize min size (entry.size - offset) = bytesToRead at hbytes htake hpiece
    have hcount : bytesToRead.toInt64 = Int64.ofNat bytesToRead.toNat := by
      conv_lhs => rw [← UInt64.ofNat_toNat (x := bytesToRead)]
      rfl
    have hread := copyBlocks_stored himage hstored hlength bytesToRead.toNat offset.toNat
      (entry.dataBlock.toUInt64 + offset / (512 : UInt32).toUInt64) (offset % (512 : UInt32).toUInt64) bytesToRead
      (fun _ => hcurrent) (fun _ => UInt64.toNat_mod _ _) le_rfl (by omega)
    rw [if_neg hend, hblockSize, if_neg (by decide), hread]
    simp only [bind, Except.bind]
    rw [htake, hcount, hpiece]

end Reading

/-! ## The round trip -/

section RoundTrip
variable {δ : Type _} [IStorageDevice δ] [BlockStore δ] {files : Files}

/-- What a mounted file system tells of the files it was made of. -/
structure ReadsBack (image : δ) (fs : SimpleReadOnlyFS) (files : Files) (b : Nat) : Prop where
  listed : ∃ listing, listDirectory fs [slash] = some listing ∧
    listing.Perm (files.entries.map fun file => ⟨file.1, false, UInt64.ofNat file.2.length⟩)
  read : ∀ file ∈ files.entries, ∀ size offset : UInt64, size ≠ 0 →
    readFile image fs file.1 size offset = .ok (Int64.ofNat ((file.2.drop offset.toNat).take size.toNat).length,
      (file.2.drop offset.toNat).take size.toNat)
  covered : ∀ k, Belongs b fs.directory k → k < fs.superblock.totalBlocks.toNat

/-- The files make an image that is mounted and read back. -/
def RoundTrips (device : δ) (files : Files) (blockSize : UInt32) : Prop :=
  ∃ (image : δ) (fs : SimpleReadOnlyFS), createFilesystem device files blockSize = .ok (true, image) ∧
    mount image = .ok (some fs) ∧ ReadsBack image fs files blockSize.toNat

/-- The blocks of the files are no more than their sizes together take. -/
def Covered (b : Nat) (files : Files) : Prop := dataBlocks b files.entries ≤ blockCount b (dataSize files)

theorem dataSize_le {files : List (Text × List UInt8)} :
    (files.map fun file => file.2.length).sum ≤ dataBlocks 512 files * 512 := by
  induction files with
  | nil => exact Nat.zero_le _
  | cons file files ih =>
      have hfile := le_blockCount_mul (b := 512) (by decide) file.2.length
      rw [dataBlocks_cons, List.map_cons, List.sum_cons]
      omega

theorem foldl_dataSize (files : List (Text × List UInt8)) (sum : Nat) :
    files.foldl (fun sum file => sum + UInt64.ofNat file.2.length) (UInt64.ofNat sum) =
      UInt64.ofNat (sum + (files.map fun file => file.2.length).sum) := by
  induction files generalizing sum with
  | nil => rfl
  | cons file files ih =>
      rw [List.foldl_cons, ← UInt64.ofNat_add, ih, List.map_cons, List.sum_cons, Nat.add_assoc]

theorem totalBlocks_superblockOf (h : Fits 512 files) :
    (superblockOf files 512).totalBlocks.toNat = 1 + dirBlocks 512 files + blockCount 512 (dataSize files) := by
  have hblocks := h.blocks
  have hsize : dataSize files ≤ dataBlocks 512 files.entries * 512 := dataSize_le
  have hcount : blockCount 512 (dataSize files) * 512 < dataSize files + 512 := blockCount_mul_lt (by decide) _
  have htotal : (superblockOf files 512).totalBlocks = (superblockOf files 512).dataBlock +
      UInt64.ofNat (blockCount 512 (dataSize files)) := by
    have hsum := foldl_dataSize files.entries 0
    rw [Nat.zero_add] at hsum
    rw [superblockOf]
    dsimp only
    rw [show (0 : UInt64) = UInt64.ofNat 0 from rfl, hsum, blockCount, UInt64.ofNat_div (by omega) (by decide),
      UInt64.ofNat_sub (by omega), UInt64.ofNat_add]
    rfl
  rw [htotal, dataBlock_superblockOf h, ← UInt64.ofNat_add]
  exact UInt64.toNat_ofNat_of_lt' (show _ < 2 ^ 64 by omega)

theorem blockCount_le_dataBlocks {files : List (Text × List UInt8)} {file : Text × List UInt8} (h : file ∈ files) :
    blockCount 512 file.2.length ≤ dataBlocks 512 files := by
  induction files with
  | nil => exact absurd h List.not_mem_nil
  | cons first files ih =>
      rw [dataBlocks_cons]
      rcases List.mem_cons.mp h with rfl | hrest
      · exact Nat.le_add_right _ _
      · exact (ih hrest).trans (Nat.le_add_left _ _)

/-- **Reading back** an image that was made of blocks of 512 bytes. All but the number of blocks is right. -/
theorem roundTrips_of_fits {device : δ} (hconnected : isConnected device = true)
    (hsize : BlockStore.blockBytes device = 512) (hnames : ∀ file ∈ files.entries, IsFileName file.1)
    (henough : 1 + dirBlocks 512 files + dataBlocks 512 files.entries ≤ BlockStore.blockCount device)
    (hfits : Fits 512 files) (hnonempty : files.entries ≠ []) : RoundTrips device files 512 ↔ Covered 512 files := by
  obtain ⟨image, content, hcreated, himage⟩ := createFilesystem_isImage hconnected hsize hnames henough hfits
  have hmounted := mount_image himage hfits hnames hnonempty (by omega)
  have hbelongs := fun k => belongs_entriesFrom k files.entries hfits.blocks
  have htotal := totalBlocks_superblockOf hfits
  constructor
  · rintro ⟨image', fs, hcreated', hmounted', hreads⟩
    cases hcreated.symm.trans hcreated'
    cases hmounted.symm.trans hmounted'
    -- the last block of the last file is covered
    by_cases hdata : dataBlocks 512 files.entries = 0
    · exact hdata.trans_le (Nat.zero_le _)
    · have hlast := hreads.covered (dirBlocks 512 files + dataBlocks 512 files.entries)
        ((hbelongs _).mpr (by omega))
      dsimp only at hlast
      rw [Covered]
      omega
  · intro hcovered
    rw [Covered] at hcovered
    refine ⟨image, _, hcreated, hmounted, ⟨?_, ?_, ?_⟩⟩
    · exact ⟨_, listDirectory_stored himage.stored hnames, List.Perm.refl _⟩
    · intro file hfile size offset hpos
      have hblocks := hfits.blocks
      have hlength : file.2.length ≤ 2 ^ 41 :=
        length_le_of_blockCount ((blockCount_le_dataBlocks hfile).trans (by omega))
      exact readFile_stored himage.holds rfl himage.stored hnames hfile hlength hpos offset
    · intro k hk
      have := (hbelongs k).mp hk
      dsimp only
      omega

/-- A block of more than 512 bytes is read past the end of the buffer for the superblock. -/
theorem mount_of_large_blocks {image : δ} (hconnected : isConnected image = true)
    (hsize : 512 < BlockStore.blockBytes image) (hcount : 0 < BlockStore.blockCount image) :
    mount image = .error .undefined := by
  have hone : (1 : UInt64).toNat = 1 := rfl
  have hlength : (List.replicate SUPERBLOCK_SIZE (0 : UInt8)).length = 512 := List.length_replicate
  have hread := @BlockStore.readBlocks_overflows δ _ _ image 0 1 (List.replicate SUPERBLOCK_SIZE 0) hconnected
    (hone ▸ Nat.one_pos) (show 0 + 1 ≤ _ from hcount)
    (List.ne_nil_of_length_pos (hlength ▸ (by decide : 0 < 512))) (by rw [hlength, hone, Nat.one_mul]; exact hsize)
  rw [mount, hconnected, if_neg (by decide), readSuperblock, hread]
  rfl

/-- A table of no blocks cannot be read. -/
theorem mount_of_empty {image : δ} {count : Nat} {content : Nat → List UInt8} {directory : List DirEntry}
    (h : IsImage image count files content directory) (hcount : 0 < count) (hempty : files.entries = []) :
    mount image = .ok none := by
  have hdirEntries : (superblockOf files 512).dirEntries = 0 := by
    rw [superblockOf, hempty]
    rfl
  have hsize : (superblockOf files 512).blockSize = 512 := rfl
  have hnone : directoryBlocks 0 512 = 0 := rfl
  have hbuffer : List.replicate ((0 : UInt32) * 512).toNat (0 : UInt8) = [] := rfl
  have hdirectory : readDirectory image (superblockOf files 512) = .ok none := by
    have hread := BlockStore.readBlocks_zero image (superblockOf files 512).dirBlock
    rw [readDirectory, hdirEntries, hsize, if_neg (by decide), hnone]
    dsimp only
    rw [hbuffer, show (0 : UInt32).toUInt64 = 0 from rfl, hread]
    rfl
  rw [mount, h.holds.connected, if_neg (by decide), readSuperblock_image h hcount]
  simp only [bind, Except.bind]
  rw [hdirectory]

theorem nonempty_of_roundTrips {device : δ} (hconnected : isConnected device = true)
    (hsize : BlockStore.blockBytes device = 512) (hcount : 0 < BlockStore.blockCount device)
    (h : RoundTrips device files 512) : files.entries ≠ [] := by
  intro hempty
  have hentries : files.entries.length * 64 = 0 := by
    rw [hempty]
    rfl
  have hdir : dirBlocks 512 files = 0 := by
    rw [dirBlocks, hentries]
    rfl
  have hdata : dataBlocks 512 files.entries = 0 := by
    rw [hempty]
    rfl
  have hnames : ∀ file ∈ files.entries, IsFileName file.1 := by
    rw [hempty]
    exact fun file hfile => absurd hfile List.not_mem_nil
  obtain ⟨image, fs, hcreated, hmounted, -⟩ := h
  obtain ⟨image', content, hcreated', himage⟩ :=
    createFilesystem_isImage hconnected hsize hnames (by omega) ⟨by omega, by omega⟩
  cases hcreated.symm.trans hcreated'
  rw [mount_of_empty himage hcount hempty] at hmounted
  cases hmounted

/-- **When the round trip succeeds.** -/
theorem roundTrips_iff (device : δ) (files : Files) (blockSize : UInt32) (hconnected : isConnected device = true)
    (hsize : BlockStore.blockBytes device = blockSize.toNat)
    (hleast : 512 ≤ blockSize.toNat)
    (henough : 1 + dirBlocks blockSize.toNat files + dataBlocks blockSize.toNat files.entries ≤
      BlockStore.blockCount device)
    (hnames : ∀ file ∈ files.entries, IsFileName file.1) :
    (RoundTrips device files blockSize → files.entries ≠ [] ∧ blockSize = 512) ∧
      (Fits blockSize.toNat files →
        (RoundTrips device files blockSize ↔
          files.entries ≠ [] ∧ blockSize = 512 ∧ Covered blockSize.toNat files)) := by
  have hblock : RoundTrips device files blockSize → blockSize = 512 := by
    rintro ⟨image, fs, hcreated, hmounted, -⟩
    by_contra hne
    have hlarge : 512 < blockSize.toNat :=
      Nat.lt_of_le_of_ne hleast fun heq => hne (UInt32.toNat_inj.mp heq.symm)
    have hshape := createFilesystem_sameShape hcreated
    rw [mount_of_large_blocks (hshape.connected.trans hconnected) (by rw [hshape.blockBytes, hsize]; exact hlarge)
      (by rw [hshape.blockCount]; omega)] at hmounted
    cases hmounted
  have hnonempty : RoundTrips device files blockSize → files.entries ≠ [] := by
    intro htrips
    obtain rfl := hblock htrips
    exact nonempty_of_roundTrips hconnected hsize (by omega) htrips
  refine ⟨fun htrips => ⟨hnonempty htrips, hblock htrips⟩, ?_⟩
  intro hfits
  constructor
  · intro htrips
    have hfiles := hnonempty htrips
    obtain rfl := hblock htrips
    exact ⟨hfiles, rfl, (roundTrips_of_fits hconnected hsize hnames henough hfits hfiles).mp htrips⟩
  · rintro ⟨hfiles, rfl, hcovered⟩
    exact (roundTrips_of_fits hconnected hsize hnames henough hfits hfiles).mpr hcovered

/-- A disk of five blocks. -/
def blankDisk : VirtualBlockDevice where
  sectorSize := 512
  connected := true
  memoryBuffer := List.replicate 2560 0
  length_le := by decide +kernel

theorem roundTrips_iff_blankDisk : RoundTrips blankDisk ⟨[(text "a", [1])], List.pairwise_singleton ..⟩ 512 :=
  ((roundTrips_iff blankDisk ⟨[(text "a", [1])], List.pairwise_singleton ..⟩ 512 rfl rfl (by decide) (by decide +kernel)
    (by
      intro file hfile
      rw [List.mem_singleton.mp hfile]
      exact ⟨by decide, by decide, by decide, by decide⟩)).2 ⟨by decide, by decide⟩).mpr
    ⟨by decide, rfl, by unfold Covered; decide⟩

def noFiles : Files := ⟨[], List.Pairwise.nil⟩

/-- No files make an image that is not mounted. -/
theorem noFiles_not_roundTrips : isConnected blankDisk = true ∧ BlockStore.blockBytes blankDisk = 512 ∧
    1 + dirBlocks 512 noFiles + dataBlocks 512 noFiles.entries ≤ BlockStore.blockCount blankDisk ∧
    (∀ file ∈ noFiles.entries, IsFileName file.1) ∧ ¬ RoundTrips blankDisk noFiles 512 := by
  refine ⟨rfl, rfl, by decide +kernel, fun file hfile => absurd hfile List.not_mem_nil, ?_⟩
  intro htrips
  exact nonempty_of_roundTrips rfl rfl (by decide +kernel) htrips rfl

end RoundTrip

end GuideXOS.Storage.SimpleReadOnlyFS
