import GuideXOS.Storage.SimpleReadOnlyFS

/-!
# `ReadOnlyImage` — what is read back from an image

The device is seen as the function from block numbers to blocks (`Holds`). Writing a run of blocks lays them over that
function (`writeRun_holds`), so an image is the superblock, the table and the files laid over each other; none reaches
into another (`Placed`). The reader then finds the directory table at the front of its padded blocks and each file behind
its entry.
-/

namespace GuideXOS.Storage.SimpleReadOnlyFS
open Core Lib Lib.Blocks Lib.Words

/-! ## Fields -/

section Fields
variable {a b : List UInt8}

theorem field_front {n : Nat} (h : a.length = n) : field (a ++ b) 0 n = a := by
  rw [field, List.drop_zero, ← h, List.take_left]

theorem field_behind {offset n : Nat} (h : a.length ≤ offset) :
    field (a ++ b) offset n = field b (offset - a.length) n := by
  rw [field, List.drop_append, List.drop_eq_nil_of_le h, List.nil_append, field]

theorem field_all {n : Nat} (h : a.length = n) : field a 0 n = a := by
  rw [field, List.drop_zero, ← h, List.take_length]

theorem word_putU32 (v : UInt32) : (wordOfBytes (putU32 v)).toUInt32 = v := wordOfBytes_bytesOfWord_four v

theorem word_putU64 (v : UInt64) : wordOfBytes (putU64 v) = v := wordOfBytes_bytesOfWord v

end Fields

/-- A superblock with fields of their sizes. -/
structure Superblock.Sized (sb : Superblock) : Prop where
  magic : sb.magic.length = 8
  reserved : sb.reserved.length = 464

theorem Superblock.length_serialize {sb : Superblock} (h : sb.Sized) : sb.serialize.length = SUPERBLOCK_SIZE := by
  simp only [Superblock.serialize, List.length_append, length_putU32, length_putU64, h.magic, h.reserved]
  rfl

theorem Superblock.deserialize_serialize {sb : Superblock} (h : sb.Sized) : deserialize sb.serialize = sb := by
  have hmagic := h.magic
  have hreserved := h.reserved
  simp (disch := simp [hmagic]) only [deserialize, serialize, field_front, field_behind, hmagic, length_putU32,
    length_putU64, Nat.reduceSub, word_putU32, word_putU64, field_all hreserved]

/-- An entry with fields of their sizes and a terminated name. -/
structure DirEntry.Sized (entry : DirEntry) : Prop where
  name : entry.name.length = MAX_FILENAME_LENGTH
  reserved : entry.reserved.length = 3
  terminated : entry.name.set (MAX_FILENAME_LENGTH - 1) 0 = entry.name

theorem DirEntry.length_serialize {entry : DirEntry} (h : entry.Sized) : entry.serialize.length = 64 := by
  simp only [DirEntry.serialize, List.length_append, length_putU8, length_putU32, length_putU64, h.name, h.reserved]
  rfl

theorem DirEntry.deserialize_serialize {entry : DirEntry} (h : entry.Sized) : deserialize entry.serialize = entry := by
  obtain ⟨name, type, reserved, size, dataBlock⟩ := entry
  obtain ⟨hname, hreserved, hterminated⟩ := h
  simp only [MAX_FILENAME_LENGTH] at hname hreserved hterminated
  have htype : (putU8 type).length = 1 := rfl
  have hsize := length_putU64 size
  have hblock := length_putU32 dataBlock
  simp only [deserialize, serialize, MAX_FILENAME_LENGTH]
  rw [field_front hname, hterminated]
  simp (disch := omega) only [field_behind, hname, htype, hreserved, hsize, Nat.reduceSub]
  rw [field_front htype, field_front hreserved, field_front hsize, field_all hblock, word_putU64, word_putU32]
  rfl

/-! ## A device as the function that gives its blocks -/

section Devices
variable {δ : Type _} [IStorageDevice δ] [BlockStore δ]

/-- The device is connected and keeps `content` in `count` blocks of `b` bytes. -/
structure Holds (device : δ) (b count : Nat) (content : Nat → List UInt8) : Prop where
  connected : isConnected device = true
  blockBytes : BlockStore.blockBytes device = b
  blockCount : BlockStore.blockCount device = count
  block : ∀ k, BlockStore.block device k = content k

/-- Blocks laid over others from block `n` on. -/
def overlay (content : Nat → List UInt8) (n : Nat) : List (List UInt8) → Nat → List UInt8
  | [], k => content k
  | bytes :: rest, k => overlay (fun j => if j = n then bytes else content j) (n + 1) rest k

variable (content : Nat → List UInt8)

theorem overlay_below (n : Nat) (chunks : List (List UInt8)) {k : Nat} (h : k < n) :
    overlay content n chunks k = content k := by
  induction chunks generalizing content n with
  | nil => rfl
  | cons bytes rest ih => rw [overlay, ih _ _ (Nat.lt_succ_of_lt h), if_neg (Nat.ne_of_lt h)]

theorem overlay_at (n : Nat) (chunks : List (List UInt8)) {i : Nat} {bytes : List UInt8}
    (h : chunks[i]? = some bytes) : overlay content n chunks (n + i) = bytes := by
  induction chunks generalizing content n i with
  | nil => cases h
  | cons first rest ih =>
      cases i with
      | zero =>
          cases h
          exact (overlay_below _ _ rest (Nat.lt_add_one n)).trans (if_pos rfl)
      | succ i =>
          rw [overlay, show n + (i + 1) = n + 1 + i by omega]
          exact ih _ _ h

/-- Writing a run of whole blocks lays them over the others. -/
theorem writeRun_holds {b count : Nat} (hb : 0 < b) (chunks : List (List UInt8)) :
    ∀ {device : δ} {content : Nat → List UInt8} (n : UInt64), Holds device b count content →
      (∀ bytes ∈ chunks, bytes.length = b) → n.toNat + chunks.length ≤ count → n.toNat + chunks.length ≤ 2 ^ 32 →
      ∃ device', writeRun device n chunks = .ok (true, device') ∧
        Holds device' b count (overlay content n.toNat chunks) := by
  induction chunks with
  | nil =>
      intro device content n hdevice _ _ _
      exact ⟨device, rfl, hdevice⟩
  | cons bytes rest ih =>
      intro device content n hdevice hchunks hcount hbound
      obtain ⟨hbytes, hrest⟩ := List.forall_mem_cons.mp hchunks
      rw [List.length_cons] at hcount hbound
      have hn : n.toNat < BlockStore.blockCount device := by
        rw [hdevice.blockCount]
        omega
      obtain ⟨device', hwritten, hblock⟩ := BlockStore.writeBlocks_one hdevice.connected hn
        (hdevice.blockBytes ▸ hb) (hbytes.trans hdevice.blockBytes.symm)
      obtain ⟨hconnected, hsize, hblocks⟩ := BlockStore.writeBlocks_keeps hwritten
      have hdevice' : Holds device' b count (fun k => if k = n.toNat then bytes else content k) := by
        refine ⟨hconnected.trans hdevice.connected, hsize.trans hdevice.blockBytes, hblocks.trans hdevice.blockCount, ?_⟩
        intro k
        rw [hblock, hdevice.block]
      have hnext : (n + 1).toNat = n.toNat + 1 := by
        rw [UInt64.toNat_add]
        exact Nat.mod_eq_of_lt (show n.toNat + 1 < 2 ^ 64 by omega)
      obtain ⟨image, hrun, himage⟩ := ih (n + 1) hdevice' hrest (by omega) (by omega)
      rw [hnext] at himage
      refine ⟨image, ?_, himage⟩
      rw [writeRun, hwritten]
      exact hrun

/-- The second device has the shape of the first. -/
structure SameShape (device device' : δ) : Prop where
  connected : isConnected device' = isConnected device
  blockBytes : BlockStore.blockBytes device' = BlockStore.blockBytes device
  blockCount : BlockStore.blockCount device' = BlockStore.blockCount device

theorem SameShape.refl (device : δ) : SameShape device device := ⟨rfl, rfl, rfl⟩

theorem SameShape.trans {d₁ d₂ d₃ : δ} (h : SameShape d₁ d₂) (h' : SameShape d₂ d₃) : SameShape d₁ d₃ :=
  ⟨h'.connected.trans h.connected, h'.blockBytes.trans h.blockBytes, h'.blockCount.trans h.blockCount⟩

/-- Writing keeps the shape of the device, whatever it is given. -/
theorem writeRun_sameShape {chunks : List (List UInt8)} :
    ∀ {device : δ} {n : UInt64} {result : Bool × δ},
      writeRun device n chunks = .ok result → SameShape device result.2 := by
  induction chunks with
  | nil =>
      intro device n result h
      cases h
      exact SameShape.refl device
  | cons bytes rest ih =>
      intro device n result h
      rw [writeRun] at h
      cases hwrite : IStorageDevice.writeBlocks device n 1 bytes with
      | returned transferred next =>
          obtain ⟨hconnected, hsize, hcount⟩ := BlockStore.writeBlocks_keeps hwrite
          have hnext : SameShape device next := ⟨hconnected, hsize, hcount⟩
          rw [hwrite] at h
          simp only [Outcome.result, bind, Except.bind] at h
          split at h
          · cases h
            exact hnext
          · exact hnext.trans (ih h)
      | threw what => rw [hwrite] at h; cases h
      | undefined => rw [hwrite] at h; cases h

theorem writeFiles_sameShape {files : Files} {blockSize : Nat} {entries : List DirEntry} :
    ∀ {device device' : δ} {written : Bool},
      writeFiles files blockSize device entries = .ok (written, device') → SameShape device device' := by
  induction entries with
  | nil =>
      intro device device' written h
      cases h
      exact SameShape.refl device
  | cons entry rest ih =>
      intro device device' written h
      rw [writeFiles] at h
      split at h
      · cases h
      · next file _ =>
        cases hrun : writeRun device entry.dataBlock.toUInt64 (blocksOf blockSize file.2) with
        | error stop => rw [hrun] at h; cases h
        | ok result =>
            have hshape := writeRun_sameShape hrun
            rw [hrun] at h
            simp only [bind, Except.bind] at h
            split at h
            · exact hshape.trans (ih h)
            · cases h
              exact hshape

theorem createFilesystem_sameShape {device image : δ} {files : Files} {blockSize : UInt32} {created : Bool}
    (h : createFilesystem device files blockSize = .ok (created, image)) : SameShape device image := by
  unfold createFilesystem at h
  split at h
  · cases h
    exact SameShape.refl device
  · split at h
    · cases h
    · dsimp only at h
      cases hsuper : writeRun device 0 [pad blockSize.toNat (superblockOf files blockSize).serialize] with
      | error stop => rw [hsuper] at h; cases h
      | ok first =>
          have hfirst := writeRun_sameShape hsuper
          rw [hsuper] at h
          simp only [bind, Except.bind] at h
          split at h
          · cases h
            exact hfirst
          · split at h
            · cases h
            · next table htable =>
              have htable := writeRun_sameShape htable
              split at h
              · cases h
                exact hfirst.trans htable
              · exact hfirst.trans (htable.trans (writeFiles_sameShape h))

end Devices

/-! ## Names and entries -/

/-- A file name that the table can keep. -/
structure IsFileName (name : Text) : Prop where
  nonempty : name ≠ []
  short : name.length < MAX_FILENAME_LENGTH
  noNul : (0 : UInt8) ∉ name
  noSlash : slash ∉ name

section Names
variable {name : Text}

theorem nameField_eq (h : IsFileName name) :
    DirEntry.nameField name = name ++ List.replicate (MAX_FILENAME_LENGTH - name.length) 0 := by
  have hshort : name.length ≤ MAX_FILENAME_LENGTH - 1 := Nat.le_pred_of_lt h.short
  rw [DirEntry.nameField, List.take_of_length_le hshort, pad]

theorem takeWhile_nameField (h : IsFileName name) : (DirEntry.nameField name).takeWhile (· ≠ 0) = name := by
  obtain ⟨rest, hrest⟩ := Nat.exists_eq_add_of_lt h.short
  rw [nameField_eq h, List.takeWhile_append_of_pos, show MAX_FILENAME_LENGTH - name.length = rest + 1 by omega,
    List.replicate_succ, List.takeWhile_cons_of_neg (by simp), List.append_nil]
  intro byte hbyte
  exact decide_eq_true fun hzero => h.noNul (hzero ▸ hbyte)

theorem headD_nameField (h : IsFileName name) : (DirEntry.nameField name).headD 0 ≠ 0 := by
  rw [nameField_eq h]
  cases hname : name with
  | nil => exact absurd hname h.nonempty
  | cons byte rest =>
      intro hzero
      exact h.noNul (hname ▸ List.mem_cons.mpr (Or.inl hzero.symm))

theorem length_nameField (name : Text) : (DirEntry.nameField name).length = MAX_FILENAME_LENGTH := by
  refine length_pad ?_
  rw [List.length_take, MAX_FILENAME_LENGTH]
  omega

/-- The name in a field is terminated. -/
theorem nameField_terminated (name : Text) :
    (DirEntry.nameField name).set (MAX_FILENAME_LENGTH - 1) 0 = DirEntry.nameField name := by
  have htake : (name.take (MAX_FILENAME_LENGTH - 1)).length ≤ MAX_FILENAME_LENGTH - 1 := by
    rw [List.length_take]
    exact Nat.min_le_left _ _
  rw [DirEntry.nameField, pad, List.set_append_right _ _ htake, List.set_replicate_self]

end Names

/-- The entry of a file whose data starts at block `start`. -/
def entryOf (start : Nat) (file : Text × List UInt8) : DirEntry where
  name := DirEntry.nameField file.1
  size := UInt64.ofNat file.2.length
  dataBlock := UInt32.ofNat start

variable (start : Nat)

theorem entryOf_sized (file : Text × List UInt8) : (entryOf start file).Sized :=
  ⟨length_nameField _, rfl, nameField_terminated _⟩

variable {file : Text × List UInt8} {rest : List (Text × List UInt8)}

theorem getName_entryOf (h : IsFileName file.1) :
    (entryOf start file).getName = file.1 := takeWhile_nameField h

/-- The blocks of the data of some files. -/
def dataBlocks (b : Nat) (files : List (Text × List UInt8)) : Nat := (files.map fun file => blockCount b file.2.length).sum

theorem dataBlocks_cons (b : Nat) (file : Text × List UInt8) (rest : List (Text × List UInt8)) :
    dataBlocks b (file :: rest) = blockCount b file.2.length + dataBlocks b rest := List.sum_cons

/-- A content that fits a disk of `2 ^ 32` blocks has a size of 64 bits. -/
theorem length_le_of_blockCount {bytes : List UInt8} (h : blockCount 512 bytes.length ≤ 2 ^ 32) :
    bytes.length ≤ 2 ^ 41 := by
  have hle := le_blockCount_mul (b := 512) (by decide) bytes.length
  omega

theorem entriesFrom_cons {start : Nat} (h : blockCount 512 file.2.length ≤ 2 ^ 32) :
    entriesFrom 512 (UInt32.ofNat start) (file :: rest) =
      entryOf start file :: entriesFrom 512 (UInt32.ofNat (start + blockCount 512 file.2.length)) rest := by
  have hlen := length_le_of_blockCount h
  have hblocks : (UInt64.ofNat file.2.length + (512 : UInt32).toUInt64 - 1) / (512 : UInt32).toUInt64 =
      UInt64.ofNat (blockCount 512 file.2.length) := by
    rw [blockCount, UInt64.ofNat_div (by omega) (by decide), UInt64.ofNat_sub (by omega), UInt64.ofNat_add]
    rfl
  rw [entriesFrom, hblocks, UInt64.toUInt32_ofNat', ← UInt32.ofNat_add]
  rfl

/-- A block belongs to a file of the directory. -/
def Belongs (b : Nat) (directory : List DirEntry) (k : Nat) : Prop :=
  ∃ entry ∈ directory, entry.dataBlock.toNat ≤ k ∧ k < entry.dataBlock.toNat + blockCount b entry.size.toNat

theorem dataBlock_entryOf {start : Nat} (hstart : start + blockCount 512 file.2.length ≤ 2 ^ 32)
    (hdata : 0 < blockCount 512 file.2.length) : (entryOf start file).dataBlock.toNat = start :=
  UInt32.toNat_ofNat_of_lt' (show start < 2 ^ 32 by omega)

theorem size_entryOf (h : blockCount 512 file.2.length ≤ 2 ^ 32) : (entryOf start file).size.toNat = file.2.length := by
  have hlen := length_le_of_blockCount h
  exact UInt64.toNat_ofNat_of_lt' (show file.2.length < 2 ^ 64 by omega)

/-- **The data of the files** are the blocks from the start on. -/
theorem belongs_entriesFrom (k : Nat) (rest : List (Text × List UInt8)) :
    ∀ {start : Nat}, start + dataBlocks 512 rest ≤ 2 ^ 32 →
      (Belongs 512 (entriesFrom 512 (UInt32.ofNat start) rest) k ↔ start ≤ k ∧ k < start + dataBlocks 512 rest) := by
  induction rest with
  | nil =>
      intro start _
      have hnone : dataBlocks 512 [] = 0 := rfl
      constructor
      · rintro ⟨entry, hentry, -⟩
        exact absurd hentry List.not_mem_nil
      · omega
  | cons file rest ih =>
      intro start hstart
      rw [dataBlocks_cons] at hstart
      have ih := @ih (start + blockCount 512 file.2.length) (by omega)
      have hsize : (entryOf start file).size.toNat = file.2.length := size_entryOf start (by omega)
      rw [entriesFrom_cons (by omega), dataBlocks_cons]
      constructor
      · rintro ⟨entry, hentry, hblock⟩
        rcases List.mem_cons.mp hentry with rfl | hrest
        · rw [hsize] at hblock
          rw [dataBlock_entryOf (by omega) (by omega)] at hblock
          omega
        · have := ih.mp ⟨entry, hrest, hblock⟩
          omega
      · intro hk
        by_cases hfirst : k < start + blockCount 512 file.2.length
        · refine ⟨entryOf start file, List.mem_cons_self, ?_⟩
          rw [hsize, dataBlock_entryOf (by omega) (by omega)]
          omega
        · obtain ⟨entry, hentry, hblock⟩ := ih.mpr (by omega)
          exact ⟨entry, List.mem_cons_of_mem _ hentry, hblock⟩

/-! ## The directory table -/

theorem entriesFrom_sized :
    ∀ {start : Nat}, start + dataBlocks 512 rest ≤ 2 ^ 32 →
      (∀ entry ∈ entriesFrom 512 (UInt32.ofNat start) rest, entry.Sized) ∧
        (entriesFrom 512 (UInt32.ofNat start) rest).length = rest.length := by
  induction rest with
  | nil =>
      intro start _
      exact ⟨fun entry hentry => absurd hentry List.not_mem_nil, rfl⟩
  | cons file rest ih =>
      intro start hstart
      rw [dataBlocks_cons] at hstart
      obtain ⟨hsized, hlength⟩ := @ih (start + blockCount 512 file.2.length) (by omega)
      rw [entriesFrom_cons (by omega), List.length_cons, List.length_cons, hlength]
      exact ⟨List.forall_mem_cons.mpr ⟨entryOf_sized start file, hsized⟩, rfl⟩

section Table
variable {entries : List DirEntry}

/-- The bytes of the entries. -/
def table (entries : List DirEntry) : List UInt8 := entries.flatMap DirEntry.serialize

section
variable (h : ∀ entry ∈ entries, entry.Sized)
include h

theorem serialize_sizes : ∀ entry ∈ entries, entry.serialize.length = 64 :=
  fun entry hentry => DirEntry.length_serialize (h entry hentry)

theorem length_table : (table entries).length = entries.length * 64 :=
  length_flatMap_of_size (serialize_sizes h)

/-- Eight entries fill a block, so the blocks of the table are those of its bytes. -/
theorem tableBlocks_eq : tableBlocks 512 entries = blocksOf 512 (table entries) := by
  have hsize := serialize_sizes h
  have hcount : blockCount (512 / DIRENT_SIZE.toNat) entries.length = blockCount 512 (table entries).length := by
    rw [length_table h]
    simp only [blockCount, show 512 / DIRENT_SIZE.toNat = 8 from rfl]
    omega
  rw [tableBlocks, blocksOf, ← hcount]
  refine List.map_congr_left fun i _ => ?_
  have hdropped : ∀ entry ∈ entries.drop (i * 8), entry.serialize.length = 64 :=
    fun entry hentry => hsize entry (List.mem_of_mem_drop hentry)
  rw [blockAt, table, show i * 512 = i * 8 * 64 by omega, drop_flatMap_of_size hsize, show 512 = 8 * 64 from rfl,
    take_flatMap_of_size hdropped]
  rfl

end

/-- An entry is read back from its place in the table. -/
theorem entryAt_table {padding : List UInt8} (h : ∀ entry ∈ entries, entry.Sized)
    (hbound : entries.length * 64 < 2 ^ 32)
    {i : Nat} {entry : DirEntry}
    (hi : entries[i]? = some entry) : entryAt (table entries ++ padding) i = .ok entry := by
  obtain ⟨hlt, hentry⟩ := List.getElem?_eq_some_iff.mp hi
  have hlength := length_table h
  have hsized := h entry (hentry ▸ List.getElem_mem hlt)
  have hoffset : (UInt32.ofNat i * DIRENT_SIZE).toNat = i * 64 := by
    rw [UInt32.toNat_mul, UInt32.toNat_ofNat_of_lt' (show i < 2 ^ 32 by omega)]
    exact Nat.mod_eq_of_lt (show i * 64 < 2 ^ 32 by omega)
  have hbytes : field (table entries ++ padding) (i * 64) 64 = entry.serialize := by
    have hsize := serialize_sizes h
    have hdropped : ∀ entry ∈ entries.drop i, entry.serialize.length = 64 :=
      fun entry hentry => hsize entry (List.mem_of_mem_drop hentry)
    rw [field, List.drop_append_of_le_length (by omega),
      List.take_append_of_le_length (by rw [List.length_drop]; omega), table, drop_flatMap_of_size hsize,
      ← Nat.one_mul 64, take_flatMap_of_size hdropped, List.drop_eq_getElem_cons hlt, hentry]
    exact List.flatMap_singleton _ entry
  have hfits : i * 64 + DIRENT_SIZE.toNat ≤ (table entries ++ padding).length := by
    rw [List.length_append, hlength]
    exact Nat.le_add_right_of_le (show i * 64 + 64 ≤ entries.length * 64 by omega)
  rw [entryAt, hoffset, if_pos hfits]
  exact congrArg Except.ok ((congrArg DirEntry.deserialize hbytes).trans (DirEntry.deserialize_serialize hsized))

end Table

/-! ## The files of an image -/

/-- The entry tells of the file, and the file is behind it. -/
structure Stored (count : Nat) (content : Nat → List UInt8) (entry : DirEntry) (file : Text × List UInt8) : Prop where
  name : entry.name = DirEntry.nameField file.1
  type : entry.type = 0
  size : entry.size = UInt64.ofNat file.2.length
  block : ∀ i < blockCount 512 file.2.length, content (entry.dataBlock.toNat + i) = blockAt 512 file.2 i
  within : ∀ i < blockCount 512 file.2.length, entry.dataBlock.toNat + i < count

section Writing
variable {δ : Type _} [IStorageDevice δ] [BlockStore δ] {count : Nat} (files : Files)

/-- **Writing the files** puts each of them behind its entry, and changes no block before the first. -/
theorem writeFiles_stored (rest : List (Text × List UInt8)) :
    ∀ (start : Nat) {device : δ} {content : Nat → List UInt8}, Holds device 512 count content →
      (∀ file ∈ rest, IsFileName file.1 ∧ files.entries.find? (·.1 = file.1) = some file) →
      start + dataBlocks 512 rest ≤ count → start + dataBlocks 512 rest ≤ 2 ^ 32 →
      ∃ image content', writeFiles files 512 device (entriesFrom 512 (UInt32.ofNat start) rest) = .ok (true, image) ∧
        Holds image 512 count content' ∧ (∀ k < start, content' k = content k) ∧
        List.Forall₂ (Stored count content') (entriesFrom 512 (UInt32.ofNat start) rest) rest := by
  induction rest with
  | nil =>
      intro start device content hdevice _ _ _
      exact ⟨device, content, rfl, hdevice, fun _ _ => rfl, List.Forall₂.nil⟩
  | cons file rest ih =>
      intro start device content hdevice hfiles hcount hbound
      obtain ⟨⟨hname, hfind⟩, hrest⟩ := List.forall_mem_cons.mp hfiles
      rw [dataBlocks_cons] at hcount hbound
      rw [entriesFrom_cons (by omega)]
      have hblock : 0 < blockCount 512 file.2.length → (entryOf start file).dataBlock.toNat = start :=
        dataBlock_entryOf (by omega)
      have hle : (entryOf start file).dataBlock.toUInt64.toNat ≤ start := Nat.mod_le _ _
      have hlength := length_blocksOf (b := 512) file.2
      -- the data of this file
      obtain ⟨device', hrun, hdevice'⟩ := writeRun_holds (by decide) (blocksOf 512 file.2)
        (entryOf start file).dataBlock.toUInt64 hdevice (fun bytes => length_of_mem_blocksOf) (by omega) (by omega)
      have hbelow : ∀ k < start, overlay content (entryOf start file).dataBlock.toUInt64.toNat
          (blocksOf 512 file.2) k = content k := by
        intro k hk
        by_cases hdata : 0 < blockCount 512 file.2.length
        · exact overlay_below _ _ _ (hk.trans_eq (hblock hdata).symm)
        · rw [List.length_eq_zero_iff.mp (by omega : (blocksOf 512 file.2).length = 0)]
          rfl
      -- the data of the others
      obtain ⟨image, content', hwritten, himage, hkept, hstored⟩ :=
        ih (start + blockCount 512 file.2.length) hdevice' hrest (by omega) (by omega)
      refine ⟨image, content', ?_, himage, ?_, List.Forall₂.cons ⟨rfl, rfl, rfl, ?_, ?_⟩ hstored⟩
      · rw [writeFiles, getName_entryOf start hname, hfind]
        dsimp only
        rw [hrun]
        exact hwritten
      · intro k hk
        rw [hkept k (by omega), hbelow k hk]
      · intro i hi
        have hstart := hblock (by omega)
        rw [hkept _ (by omega)]
        exact overlay_at _ _ _ (getElem?_blocksOf hi)
      · intro i hi
        rw [hblock (by omega)]
        omega

/-- The blocks of the directory table of an image. -/
def dirBlocks (b : Nat) (files : Files) : Nat := blockCount b (files.entries.length * 64)

/-- The sum of the sizes. -/
def dataSize (files : Files) : Nat := (files.entries.map fun file => file.2.length).sum

/-- The counts of an image fit the words of 32 bits that keep them. -/
structure Fits (b : Nat) (files : Files) : Prop where
  entries : files.entries.length * 64 + b ≤ 2 ^ 32
  blocks : 1 + dirBlocks b files + dataBlocks b files.entries ≤ 2 ^ 32

theorem Files.distinct : files.entries.Pairwise fun file file' => file.1 ≠ file'.1 := by
  refine files.sorted.imp ?_
  intro file file' hlt heq
  rw [heq] at hlt
  exact List.lt_irrefl _ hlt

/-- The device keeps an image of the files. -/
structure IsImage (device : δ) (count : Nat) (files : Files) (content : Nat → List UInt8) (directory : List DirEntry) :
    Prop where
  holds : Holds device 512 count content
  superblock : content 0 = (superblockOf files 512).serialize
  table : ∀ i < dirBlocks 512 files, content (1 + i) = blockAt 512 (table directory) i
  sized : ∀ entry ∈ directory, entry.Sized
  stored : List.Forall₂ (Stored count content) directory files.entries

theorem directoryBlocks_eq {files : Files} (h : Fits 512 files) :
    directoryBlocks (UInt32.ofNat files.entries.length) 512 = UInt32.ofNat (dirBlocks 512 files) := by
  have hentries := h.entries
  rw [directoryBlocks, dirBlocks, blockCount, UInt32.ofNat_div (show _ < 2 ^ 32 by omega) (by decide),
    UInt32.ofNat_sub (by omega), UInt32.ofNat_add, UInt32.ofNat_mul]
  rfl

theorem dataBlock_superblockOf {files : Files} (h : Fits 512 files) :
    (superblockOf files 512).dataBlock = UInt64.ofNat (1 + dirBlocks 512 files) := by
  have hblocks := h.blocks
  have hdir : (UInt32.ofNat (dirBlocks 512 files)).toUInt64 = UInt64.ofNat (dirBlocks 512 files) := by
    apply UInt64.toNat_inj.mp
    rw [UInt32.toNat_toUInt64, UInt32.toNat_ofNat_of_lt' (show _ < 2 ^ 32 by omega),
      UInt64.toNat_ofNat_of_lt' (show _ < 2 ^ 64 by omega)]
  rw [superblockOf, directoryBlocks_eq h, hdir, UInt64.ofNat_add]
  rfl

theorem superblockOf_sized (b : UInt32) : (superblockOf files b).Sized :=
  ⟨rfl, List.length_replicate⟩

/-- **Writing an image.** -/
theorem createFilesystem_isImage {device : δ} {files : Files} (hconnected : isConnected device = true)
    (hsize : BlockStore.blockBytes device = 512) (hnames : ∀ file ∈ files.entries, IsFileName file.1)
    (henough : 1 + dirBlocks 512 files + dataBlocks 512 files.entries ≤ BlockStore.blockCount device)
    (hfits : Fits 512 files) :
    ∃ image content, createFilesystem device files 512 = .ok (true, image) ∧
      IsImage image (BlockStore.blockCount device) files content
        (entriesFrom 512 (UInt32.ofNat (1 + dirBlocks 512 files)) files.entries) := by
  have hbound := hfits.blocks
  have hdevice : Holds device 512 (BlockStore.blockCount device) (BlockStore.block device) :=
    ⟨hconnected, hsize, rfl, fun _ => rfl⟩
  have hsuper : (superblockOf files 512).serialize.length = 512 :=
    Superblock.length_serialize (superblockOf_sized files 512)
  have hpad : pad 512 (superblockOf files 512).serialize = (superblockOf files 512).serialize := by
    rw [pad, hsuper]
    exact List.append_nil _
  obtain ⟨hsized, hlength⟩ := entriesFrom_sized hbound
  generalize hdirectory : entriesFrom 512 (UInt32.ofNat (1 + dirBlocks 512 files)) files.entries = directory at *
  have htable : (blocksOf 512 (table directory)).length = dirBlocks 512 files := by
    rw [length_blocksOf, length_table hsized, hlength, dirBlocks]
  -- the superblock, the table and the files, one after the other
  obtain ⟨first, hfirst, hholds⟩ := writeRun_holds (by decide)
    [pad 512 (superblockOf files 512).serialize] 0 hdevice
    (by intro bytes hbytes; rw [List.mem_singleton.mp hbytes, hpad, hsuper])
    (show 0 + 1 ≤ _ by omega) (show 0 + 1 ≤ 2 ^ 32 by omega)
  obtain ⟨second, hsecond, hholds'⟩ := writeRun_holds (by decide)
    (blocksOf 512 (table directory)) 1 hholds (fun bytes => length_of_mem_blocksOf)
    (show 1 + _ ≤ _ by omega) (show 1 + _ ≤ 2 ^ 32 by omega)
  rw [show (0 : UInt64).toNat = 0 from rfl, show (1 : UInt64).toNat = 1 from rfl] at hholds'
  obtain ⟨image, content, hwritten, himage, hkept, hstored⟩ := writeFiles_stored files files.entries
    (1 + dirBlocks 512 files) hholds'
    (fun file hfile => ⟨hnames file hfile, find?_of_distinct (Files.distinct files) hfile⟩) henough hbound
  rw [hdirectory] at hwritten hstored
  refine ⟨image, content, ?_, himage, ?_, ?_, hsized, hstored⟩
  · have hdata : (superblockOf files 512).dataBlock.toUInt32 = UInt32.ofNat (1 + dirBlocks 512 files) := by
      rw [dataBlock_superblockOf hfits, UInt64.toUInt32_ofNat']
    unfold createFilesystem
    dsimp only
    rw [hconnected, if_neg (by decide), if_neg (by decide), hdata, hdirectory]
    simp only [show (512 : UInt32).toNat = 512 from rfl]
    rw [hfirst]
    simp only [bind, Except.bind, Bool.not_true, Bool.false_eq_true, if_false]
    rw [tableBlocks_eq hsized, show (superblockOf files 512).dirBlock = 1 from rfl, hsecond]
    simp only [Bool.not_true, Bool.false_eq_true, if_false]
    exact hwritten
  · rw [hkept 0 (by omega), overlay_below _ _ _ Nat.one_pos]
    exact (overlay_at _ 0 _ (i := 0) rfl).trans hpad
  · intro i hi
    rw [hkept (1 + i) (by omega)]
    exact overlay_at _ 1 _ (getElem?_blocksOf (by rw [length_table hsized, hlength]; exact hi))

end Writing

end GuideXOS.Storage.SimpleReadOnlyFS
