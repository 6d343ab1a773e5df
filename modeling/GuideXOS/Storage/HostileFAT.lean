import GuideXOS.Storage.FATParser

/-!
# `HostileFAT` — FAT images that nobody wrote

Every number that the parser computes with comes from the image. `Survives` says that its operations end, divide by
nothing and stay inside the image and the table. They do so if and only if clusters have sectors, no directory on the way
of the path runs in a circle, and no sum that wraps around hides that a cluster, or the root directory, lies outside the
image (`Harmless`). The table is never left, whatever it holds (`getNextCluster_ok`).
-/

namespace GuideXOS.Storage.FAT
open Core Lib Lib.Words Lib.Loops Lib.Fallible Relation

/-! ## What an image must not hold -/

/-- The entries of a directory up to its end marker lie inside the image. -/
def EntriesInside (image : List UInt8) (start count : Nat) : Prop :=
  ∀ i < count, (∀ j < i, marker image (start + FATDirectoryEntry.size * j) ≠ 0) →
    start + FATDirectoryEntry.size * i + footprint image (start + FATDirectoryEntry.size * i) ≤ image.length

def HasEnd (image : List UInt8) (start count : Nat) : Prop :=
  ∃ i < count, marker image (start + FATDirectoryEntry.size * i) = 0

namespace FATParser
variable (v : FATParser)

/-- The parser of an image. -/
def Reads (image : List UInt8) : Prop :=
  FATBootSector.size ≤ image.length ∧ v.imageData = image ∧ v.bootSector.toFATBootSector = .ofBytes image

/-- The end of a part of the image as the parser computes it, and compares it with the size. -/
def Accepted (offset size : UInt32) : Prop := (offset + size).toNat ≤ v.imageData.length

instance (offset size : UInt32) : Decidable (v.Accepted offset size) := by
  unfold Accepted
  infer_instance

/-- Entries in a part that the parser accepts lie inside the image. -/
def RegionHarmless (offset size : UInt32) : Prop :=
  v.Accepted offset size → EntriesInside v.imageData offset.toNat (size.toNat / FATDirectoryEntry.size)

/-- A directory goes on from one cluster to the next. -/
def Continues (cluster next : UInt32) : Prop :=
  IsCluster cluster ∧ v.Accepted (v.getClusterOffset cluster) v.getBytesPerCluster ∧
    ¬ HasEnd v.imageData (v.getClusterOffset cluster).toNat (v.getBytesPerCluster.toNat / FATDirectoryEntry.size) ∧
    v.getNextCluster cluster = .ok next

/-- **A directory**: no cluster of it comes back, and the entries of each lie inside the image. -/
structure DirectoryHarmless (cluster : UInt32) : Prop where
  root : v.IsRoot cluster → v.RegionHarmless v.rootOffset v.rootSize
  inside : ¬ v.IsRoot cluster → ∀ next, ReflTransGen v.Continues cluster next → IsCluster next →
    v.RegionHarmless (v.getClusterOffset next) v.getBytesPerCluster
  acyclic : ¬ v.IsRoot cluster → ∀ next, ReflTransGen v.Continues cluster next → ¬ TransGen v.Continues next next

/-- What a directory holds, where the parser can read it to its end. -/
def Holds (cluster : UInt32) (entries : List DirectoryEntryInfo) : Prop :=
  if v.IsRoot cluster then
    v.Accepted v.rootOffset v.rootSize ∧ ∃ ended,
      appendEntries v.imageData v.bootSector.rootEntryCount.toNat v.rootOffset.toNat [] = .ok (entries, ended)
  else Yields v.directoryTurn cluster entries true

/-- A name stands for the first entry that answers to it. -/
def Names (cluster : UInt32) (name : Text) (info : FATFileInfo) : Prop :=
  ∃ entries, v.Holds cluster entries ∧
    (entries.find? (DirectoryEntryInfo.answers name)).map DirectoryEntryInfo.fileInfo = some info

/-- A path opens the directories that its names lead through, one in another. -/
inductive Opens : UInt32 → List Text → UInt32 → Prop
  | here (cluster : UInt32) (names : List Text) : Opens cluster names cluster
  | down {cluster next : UInt32} {name : Text} {names : List Text} {info : FATFileInfo}
      (hnames : v.Names cluster name info) (hdirectory : info.isDirectory = true)
      (hopens : Opens info.firstCluster names next) : Opens cluster (name :: names) next

/-- The length of the next piece of a file. -/
def piece (size bytesRead : UInt32) : UInt32 := min v.getBytesPerCluster (size - bytesRead)

/-- A file goes on from one cluster to the next. -/
def FileContinues (size : UInt32) (here next : UInt32 × UInt32) : Prop :=
  (IsCluster here.1 ∧ here.2 < size) ∧ v.Accepted (v.getClusterOffset here.1) (v.piece size here.2) ∧
    v.getNextCluster here.1 = .ok next.1 ∧ next.2 = here.2 + v.piece size here.2

/-- **A file**: its pieces that the parser accepts lie inside the image. -/
def FileHarmless (info : FATFileInfo) : Prop :=
  info.isDirectory = false → ∀ s, ReflTransGen (v.FileContinues info.size) (info.firstCluster, 0) s →
    IsCluster s.1 ∧ s.2 < info.size → v.Accepted (v.getClusterOffset s.1) (v.piece info.size s.2) →
    (v.getClusterOffset s.1).toNat + (v.piece info.size s.2).toNat ≤ v.imageData.length

end FATParser

/-- **What the parser promises** for every image, path and description of a file. -/
structure Survives (image : List UInt8) (path : Text) (info : FATFileInfo) : Prop where
  parses : ∃ result, parse image = .ok result
  finds : ∀ v, parse image = .ok (some v) → ∃ fuel result, v.findFile fuel path = .ok result
  lists : ∀ v, parse image = .ok (some v) → ∃ fuel result, v.listDirectory fuel path = .ok result
  reads : ∀ v, parse image = .ok (some v) → ∃ fuel result, v.readFile fuel info = .ok result

/-- **A harmless image**, for a path and a description of a file. -/
structure Harmless (image : List UInt8) (path : Text) (info : FATFileInfo) : Prop where
  clusters : FATBootSector.size ≤ image.length → (FATBootSector.ofBytes image).ValidSector →
    (FATBootSector.ofBytes image).sectorsPerCluster ≠ 0
  directories : ∀ v : FATParser, v.Reads image → FATParser.isRootPath path ∨ components path ≠ [] →
    ∀ cluster, v.Opens 0 (components path) cluster → v.DirectoryHarmless cluster
  file : ∀ v : FATParser, v.Reads image → v.FileHarmless info

/-! ## Parsing -/

section Parsing
variable {image : List UInt8}

theorem FATBootSector.bytesPerSector_le {boot : FATBootSector} (h : boot.ValidSector) :
    boot.bytesPerSector.toNat ≤ 4096 := by
  rcases h with h | h | h | h <;> rw [h] <;> decide

/-- A count of sectors of 16 bits is a number of bytes that does not wrap around. -/
theorem toNat_sectors {boot : FATBootSector} (h : boot.ValidSector) (count : UInt16) :
    (count.toUInt32 * boot.bytesPerSector.toUInt32).toNat = count.toNat * boot.bytesPerSector.toNat ∧
      count.toNat * boot.bytesPerSector.toNat < 2 ^ 28 := by
  have hcount := count.toNat_lt
  have hbytes := FATBootSector.bytesPerSector_le h
  have hle : count.toNat * boot.bytesPerSector.toNat ≤ (2 ^ 16 - 1) * 4096 :=
    Nat.mul_le_mul (by omega) hbytes
  refine ⟨?_, by omega⟩
  rw [UInt32.toNat_mul, UInt16.toNat_toUInt32, UInt16.toNat_toUInt32]
  exact Nat.mod_eq_of_lt (by omega)

/-- The copy of the table never reads outside the image. -/
theorem parseFAT_ok (image : List UInt8) (boot : Geometry) : ∃ result, parseFAT image boot = .ok result := by
  obtain ⟨hoffset, hoffset_lt⟩ := toNat_sectors boot.sector boot.reservedSectors
  obtain ⟨hsize, hsize_lt⟩ := toNat_sectors boot.sector boot.sectorsPerFAT
  unfold parseFAT
  split
  · exact ⟨none, rfl⟩
  · next haccepted =>
      have hinside : boot.fatOffset.toNat + boot.fatSize.toNat ≤ image.length := by
        rw [UInt32.toNat_add] at haccepted
        rw [FATBootSector.fatOffset, FATBootSector.fatSize] at haccepted ⊢
        omega
      rw [dif_pos hinside]
      exact ⟨_, rfl⟩

theorem parse_ok_iff : (∃ result, parse image = .ok result) ↔
    (FATBootSector.size ≤ image.length → (FATBootSector.ofBytes image).ValidSector →
      (FATBootSector.ofBytes image).sectorsPerCluster ≠ 0) := by
  unfold parse
  by_cases hshort : image.length < FATBootSector.size
  · rw [if_pos hshort]
    exact ⟨fun _ hlong => absurd hshort (Nat.not_lt.mpr hlong), fun _ => ⟨none, rfl⟩⟩
  · rw [if_neg hshort]
    by_cases hsector : (FATBootSector.ofBytes image).ValidSector
    · by_cases hcluster : (FATBootSector.ofBytes image).sectorsPerCluster = 0
      · have herror : parseBootSector image = .error .dividesByZero := by
          simp [parseBootSector, hsector, hcluster]
        constructor
        · rintro ⟨result, h⟩
          rw [herror] at h
          cases h
        · intro h
          exact absurd hcluster (h (Nat.not_lt.mp hshort) hsector)
      · have hok : parseBootSector image = .ok (some ⟨.ofBytes image, hsector, hcluster⟩) := by
          simp [parseBootSector, hsector, hcluster]
        refine ⟨fun _ _ _ => hcluster, fun _ => ?_⟩
        rw [hok]
        exact parseFAT_ok image _
    · have hnone : parseBootSector image = .ok none := by
        simp [parseBootSector, hsector]
      refine ⟨fun _ _ hvalid => absurd hvalid hsector, fun _ => ?_⟩
      rw [hnone]
      exact ⟨none, rfl⟩

/-- The parser that `parse` makes. -/
theorem reads_of_parse {v : FATParser} (h : parse image = .ok (some v)) : v.Reads image := by
  unfold parse at h
  split at h
  · cases h
  · next hlong =>
      obtain ⟨boot?, hboot, hfat⟩ := bind_eq_ok.mp h
      cases boot? with
      | none => cases hfat
      | some boot =>
          have hbytes : boot.toFATBootSector = .ofBytes image := by
            unfold parseBootSector at hboot
            dsimp only at hboot
            split at hboot
            · split at hboot
              · cases hboot
              · cases hboot
                rfl
            · cases hboot
          dsimp only at hfat
          unfold parseFAT at hfat
          split at hfat
          · cases hfat
          · split at hfat
            · cases hfat
              exact ⟨Nat.not_lt.mp hlong, rfl, hbytes⟩
            · cases hfat

theorem parse_of_reads {v : FATParser} (h : v.Reads image) : parse image = .ok (some v) := by
  obtain ⟨imageData, boot, fatTable, hinside, hcopied⟩ := v
  obtain ⟨hlong, himage, hbytes⟩ := h
  dsimp only at himage hbytes
  subst himage
  have hboot : parseBootSector imageData = .ok (some boot) := by
    obtain ⟨fields, hsector, hcluster⟩ := boot
    dsimp only at hbytes
    subst hbytes
    simp [parseBootSector, hsector, hcluster]
  have haccepted : ¬ (boot.fatOffset + boot.fatSize).toNat > imageData.length := by
    rw [UInt32.toNat_add]
    have := Nat.mod_le (boot.fatOffset.toNat + boot.fatSize.toNat) (2 ^ 32)
    have : boot.fatOffset.toNat + boot.fatSize.toNat ≤ imageData.length := hinside
    omega
  rw [parse, if_neg (Nat.not_lt.mpr hlong), hboot]
  show parseFAT imageData boot = _
  rw [parseFAT, if_neg haccepted, dif_pos hinside]
  congr 3
  exact hcopied.symm

end Parsing

/-! ## The table -/

namespace FATParser

section Table
variable {v : FATParser} {cluster : UInt32}

theorem tableWord_ok {offset : UInt32} {n : Nat} (h : offset.toNat + n ≤ v.fatTable.length) :
    v.tableWord offset n = .ok (wordAt v.fatTable offset.toNat n).toUInt32 := if_pos h

/-- A cluster of a volume of less than `n` clusters. -/
theorem cluster_lt {n : UInt32} (hcluster : ¬ (cluster < 2 ∨ cluster ≥ v.bootSector.totalClusters + 2))
    (htotal : v.bootSector.totalClusters < n) : cluster.toNat < n.toNat + 1 := by
  obtain ⟨-, hlt⟩ := not_or.mp hcluster
  have hlt := UInt32.lt_iff_toNat_lt.mp (UInt32.not_le.mp hlt)
  have htotal := UInt32.lt_iff_toNat_lt.mp htotal
  have htwo : (2 : UInt32).toNat = 2 := rfl
  have hmod := Nat.mod_le (v.bootSector.totalClusters.toNat + 2) (2 ^ 32)
  rw [UInt32.toNat_add, htwo] at hlt
  omega

theorem totalClusters_lt_of_FAT12 (h : v.bootSector.fatType = .FAT12) : v.bootSector.totalClusters < 4085 := by
  unfold FATBootSector.fatType at h
  split at h
  · assumption
  · split at h <;> cases h

theorem totalClusters_lt_of_FAT16 (h : v.bootSector.fatType = .FAT16) : v.bootSector.totalClusters < 65525 := by
  unfold FATBootSector.fatType at h
  split at h
  · cases h
  · split at h
    · assumption
    · cases h

/-- **The table is never left**, whatever it holds and whatever the cluster is. -/
theorem getNextCluster_ok (v : FATParser) (cluster : UInt32) : ∃ next, v.getNextCluster cluster = .ok next := by
  unfold getNextCluster
  by_cases hcluster : cluster < 2 ∨ cluster ≥ v.bootSector.totalClusters + 2
  · rw [if_pos hcluster]
    exact ⟨_, rfl⟩
  · rw [if_neg hcluster]
    -- the entry does not wrap around: there are few clusters, or the entries are aligned
    split
    · next htype =>
        have hlt := cluster_lt hcluster (totalClusters_lt_of_FAT12 htype)
        have hoffset : (cluster + cluster / 2).toNat = cluster.toNat + cluster.toNat / 2 := by
          have htwo : (2 : UInt32).toNat = 2 := rfl
          have : (4085 : UInt32).toNat = 4085 := rfl
          rw [UInt32.toNat_add, UInt32.toNat_div, htwo]
          omega
        dsimp only
        split
        · exact ⟨_, rfl⟩
        · next hinside =>
            have hword : (cluster + cluster / 2).toNat + 2 ≤ v.fatTable.length := by
              have hone : (1 : UInt32).toNat = 1 := rfl
              have : (4085 : UInt32).toNat = 4085 := rfl
              rw [UInt32.toNat_add, hone] at hinside
              omega
            rw [tableWord_ok hword]
            exact ⟨_, rfl⟩
    · next htype =>
        have hlt := cluster_lt hcluster (totalClusters_lt_of_FAT16 htype)
        dsimp only
        split
        · exact ⟨_, rfl⟩
        · next hinside =>
            have hword : (cluster * 2).toNat + 2 ≤ v.fatTable.length := by
              have hone : (1 : UInt32).toNat = 1 := rfl
              have htwo : (2 : UInt32).toNat = 2 := rfl
              have : (65525 : UInt32).toNat = 65525 := rfl
              rw [UInt32.toNat_add, UInt32.toNat_mul, hone, htwo] at hinside
              rw [UInt32.toNat_mul, htwo]
              omega
            rw [tableWord_ok hword]
            exact ⟨_, rfl⟩
    · dsimp only
      split
      · exact ⟨_, rfl⟩
      · next hinside =>
          have hword : (cluster * 4).toNat + 4 ≤ v.fatTable.length := by
            have hthree : (3 : UInt32).toNat = 3 := rfl
            have hfour : (4 : UInt32).toNat = 4 := rfl
            rw [UInt32.toNat_add, UInt32.toNat_mul, hthree, hfour] at hinside
            rw [UInt32.toNat_mul, hfour]
            omega
          rw [tableWord_ok hword]
          exact ⟨_, rfl⟩

end Table

end FATParser

/-! ## Entries -/

section Entries
variable {image : List UInt8} {start count : Nat} {parts : List Text}

theorem scanEntry_ok_iff : (∃ scanned, scanEntry image start = .ok scanned) ↔
    start + footprint image start ≤ image.length := by
  unfold scanEntry
  split
  · exact ⟨fun _ => ‹_›, fun _ => ⟨_, rfl⟩⟩
  · refine ⟨?_, fun h => absurd h ‹_›⟩
    rintro ⟨_, h⟩
    cases h

/-- What was scanned is the end marker exactly where the first byte is zero. -/
theorem scanned_endMarker {scanned : Scanned} (h : scanEntry image start = .ok scanned) :
    scanned = .endMarker ↔ marker image start = 0 := by
  unfold scanEntry at h
  split at h
  · cases h
    split
    · exact ⟨fun _ => ‹_›, fun _ => rfl⟩
    · next hmarker =>
        refine ⟨?_, fun hzero => absurd hzero hmarker⟩
        intro hscanned
        split at hscanned
        · cases hscanned
        · split at hscanned <;> cases hscanned
  · cases h

theorem entriesInside_zero : EntriesInside image start 0 := by
  intro i hi
  omega

theorem entriesInside_succ : EntriesInside image start (count + 1) ↔ start + footprint image start ≤ image.length ∧
    (marker image start ≠ 0 → EntriesInside image (start + FATDirectoryEntry.size) count) := by
  have hshift : ∀ i, start + FATDirectoryEntry.size * (i + 1) =
      start + FATDirectoryEntry.size + FATDirectoryEntry.size * i := by
    intro i
    rw [Nat.mul_succ]
    omega
  constructor
  · intro h
    refine ⟨by simpa using h 0 (by omega) (fun j hj => by omega), ?_⟩
    intro hmarker i hi hbefore
    have hnext := h (i + 1) (by omega) fun j hj => by
      cases j with
      | zero => simpa using hmarker
      | succ j =>
          rw [hshift]
          exact hbefore j (by omega)
    rw [hshift] at hnext
    exact hnext
  · rintro ⟨hfirst, hrest⟩ i hi hbefore
    cases i with
    | zero => simpa using hfirst
    | succ i =>
        have hmarker : marker image start ≠ 0 := by simpa using hbefore 0 (by omega)
        rw [hshift]
        refine hrest hmarker i (by omega) fun j hj => ?_
        rw [← hshift]
        exact hbefore (j + 1) (by omega)

theorem hasEnd_succ : HasEnd image start (count + 1) ↔ marker image start = 0 ∨
    HasEnd image (start + FATDirectoryEntry.size) count := by
  have hshift : ∀ i, start + FATDirectoryEntry.size * (i + 1) =
      start + FATDirectoryEntry.size + FATDirectoryEntry.size * i := by
    intro i
    rw [Nat.mul_succ]
    omega
  constructor
  · rintro ⟨i, hi, hmarker⟩
    cases i with
    | zero => exact .inl (by simpa using hmarker)
    | succ i =>
        rw [hshift] at hmarker
        exact .inr ⟨i, by omega, hmarker⟩
  · rintro (hmarker | ⟨i, hi, hmarker⟩)
    · exact ⟨0, by omega, by simpa using hmarker⟩
    · rw [← hshift] at hmarker
      exact ⟨i + 1, by omega, hmarker⟩

/-- What a scan of entries does after an entry that is not the end marker. -/
theorem appendEntries_succ {scanned : Scanned} (h : scanEntry image start = .ok scanned)
    (hend : scanned ≠ .endMarker) : ∃ parts' before, appendEntries image (count + 1) start parts =
      (appendEntries image count (start + FATDirectoryEntry.size) parts' >>= fun result =>
        pure (before ++ result.1, result.2)) := by
  have hid : ∀ x : Except Stop (List DirectoryEntryInfo × Bool),
      x = (x >>= fun result => pure ([] ++ result.1, result.2)) := by
    intro x
    cases x <;> rfl
  cases scanned with
  | endMarker => exact absurd rfl hend
  | deleted =>
      refine ⟨[], [], ?_⟩
      rw [appendEntries, h, ← hid]
      rfl
  | fragment name =>
      refine ⟨name :: parts, [], ?_⟩
      rw [appendEntries, h, ← hid]
      rfl
  | entry entry =>
      refine ⟨[], [⟨entry, parts.flatten⟩], ?_⟩
      rw [appendEntries, h]
      rfl

/-- **A scan stays inside the image** exactly where the entries do. -/
theorem appendEntries_ok_iff :
    (∃ result, appendEntries image count start parts = .ok result) ↔ EntriesInside image start count := by
  induction count generalizing start parts with
  | zero => exact ⟨fun _ => entriesInside_zero, fun _ => ⟨_, rfl⟩⟩
  | succ count ih =>
      rw [entriesInside_succ, ← scanEntry_ok_iff]
      cases hscan : scanEntry image start with
      | error e =>
          constructor
          · rintro ⟨result, h⟩
            rw [appendEntries, hscan] at h
            cases h
          · rintro ⟨⟨_, h⟩, -⟩
            cases h
      | ok scanned =>
          have hiff := scanned_endMarker hscan
          by_cases hend : scanned = .endMarker
          · subst hend
            refine ⟨fun _ => ⟨⟨_, rfl⟩, fun hmarker => absurd (hiff.mp rfl) hmarker⟩, fun _ => ⟨([], true), ?_⟩⟩
            rw [appendEntries, hscan]
            rfl
          · obtain ⟨parts', before, heq⟩ := @appendEntries_succ _ _ count parts _ hscan hend
            rw [heq]
            constructor
            · rintro ⟨result, h⟩
              obtain ⟨rest, hrest, -⟩ := bind_eq_ok.mp h
              exact ⟨⟨_, rfl⟩, fun _ => ih.mp ⟨rest, hrest⟩⟩
            · rintro ⟨-, hrest⟩
              obtain ⟨rest, hok⟩ := ih.mpr (hrest fun hmarker => hend (hiff.mpr hmarker))
              rw [hok]
              exact ⟨_, rfl⟩

/-- A scan ends at the end marker, if there is one. -/
theorem ended_iff {entries : List DirectoryEntryInfo} {ended : Bool}
    (h : appendEntries image count start parts = .ok (entries, ended)) : ended = true ↔ HasEnd image start count := by
  induction count generalizing start parts entries with
  | zero =>
      cases h
      refine ⟨nofun, ?_⟩
      rintro ⟨i, hi, -⟩
      omega
  | succ count ih =>
      rw [hasEnd_succ]
      cases hscan : scanEntry image start with
      | error e =>
          rw [appendEntries, hscan] at h
          cases h
      | ok scanned =>
          have hiff := scanned_endMarker hscan
          by_cases hend : scanned = .endMarker
          · subst hend
            rw [appendEntries, hscan] at h
            cases h
            exact ⟨fun _ => .inl (hiff.mp rfl), fun _ => rfl⟩
          · obtain ⟨parts', before, heq⟩ := @appendEntries_succ _ _ count parts _ hscan hend
            rw [heq] at h
            obtain ⟨rest, hrest, hresult⟩ := bind_eq_ok.mp h
            cases hresult
            rw [ih hrest]
            exact ⟨.inr, fun hor => hor.resolve_left fun hmarker => hend (hiff.mpr hmarker)⟩

end Entries

/-! ## Directories -/

namespace FATParser

section Directories
variable {v : FATParser} {cluster next : UInt32} {entries : List DirectoryEntryInfo}

/-- The rest of a turn, after the scan. -/
def afterScan (v : FATParser) (cluster : UInt32) (result : List DirectoryEntryInfo × Bool) :
    Except Stop (Turn UInt32 DirectoryEntryInfo Bool) :=
  if result.2 then .ok (.leave result.1 true)
  else v.getNextCluster cluster >>= fun next => .ok (.again result.1 next)

theorem directoryTurn_of_accepted (hcluster : IsCluster cluster)
    (haccepted : v.Accepted (v.getClusterOffset cluster) v.getBytesPerCluster) : v.directoryTurn cluster =
    (appendEntries v.imageData (v.getBytesPerCluster.toNat / FATDirectoryEntry.size) (v.getClusterOffset cluster).toNat []
      >>= v.afterScan cluster) := by
  rw [directoryTurn, if_pos hcluster]
  dsimp only
  rw [if_neg (Nat.not_lt.mpr haccepted)]
  rfl

theorem directoryTurn_of_not_accepted (hcluster : IsCluster cluster)
    (haccepted : ¬ v.Accepted (v.getClusterOffset cluster) v.getBytesPerCluster) :
    v.directoryTurn cluster = .ok (.leave [] false) := by
  rw [directoryTurn, if_pos hcluster]
  exact if_pos (Nat.not_le.mp haccepted)

theorem afterScan_ok (v : FATParser) (cluster : UInt32) (result : List DirectoryEntryInfo × Bool) :
    ∃ turn, v.afterScan cluster result = .ok turn := by
  unfold afterScan
  split
  · exact ⟨_, rfl⟩
  · obtain ⟨next, hnext⟩ := getNextCluster_ok v cluster
    rw [hnext]
    exact ⟨_, rfl⟩

theorem directoryTurn_ok_iff : (∃ turn, v.directoryTurn cluster = .ok turn) ↔
    (IsCluster cluster → v.RegionHarmless (v.getClusterOffset cluster) v.getBytesPerCluster) := by
  by_cases hcluster : IsCluster cluster
  · by_cases haccepted : v.Accepted (v.getClusterOffset cluster) v.getBytesPerCluster
    · rw [directoryTurn_of_accepted hcluster haccepted]
      constructor
      · rintro ⟨turn, h⟩ - -
        obtain ⟨result, hresult, -⟩ := bind_eq_ok.mp h
        exact appendEntries_ok_iff.mp ⟨result, hresult⟩
      · intro h
        obtain ⟨result, hresult⟩ := (@appendEntries_ok_iff _ _ _ []).mpr (h hcluster haccepted)
        rw [hresult]
        exact afterScan_ok v cluster result
    · rw [directoryTurn_of_not_accepted hcluster haccepted]
      exact ⟨fun _ _ h => absurd h haccepted, fun _ => ⟨_, rfl⟩⟩
  · rw [directoryTurn, if_neg hcluster]
    exact ⟨fun _ h => absurd h hcluster, fun _ => ⟨_, rfl⟩⟩

theorem continues_of_goes (h : Goes v.directoryTurn cluster next) : v.Continues cluster next := by
  obtain ⟨out, h⟩ := h
  by_cases hcluster : IsCluster cluster
  · by_cases haccepted : v.Accepted (v.getClusterOffset cluster) v.getBytesPerCluster
    · rw [directoryTurn_of_accepted hcluster haccepted] at h
      obtain ⟨⟨entries, ended⟩, hscan, hafter⟩ := bind_eq_ok.mp h
      rw [afterScan] at hafter
      split at hafter
      · cases hafter
      · next hended =>
          obtain ⟨next', hnext, heq⟩ := bind_eq_ok.mp hafter
          cases heq
          exact ⟨hcluster, haccepted, fun hend => hended ((ended_iff hscan).mpr hend), hnext⟩
    · rw [directoryTurn_of_not_accepted hcluster haccepted] at h
      cases h
  · rw [directoryTurn, if_neg hcluster] at h
    cases h

theorem goes_of_continues {turn : Turn UInt32 DirectoryEntryInfo Bool} (hturn : v.directoryTurn cluster = .ok turn)
    (h : v.Continues cluster next) : Goes v.directoryTurn cluster next := by
  obtain ⟨hcluster, haccepted, hend, hnext⟩ := h
  have heq := directoryTurn_of_accepted hcluster haccepted
  rw [hturn] at heq
  obtain ⟨⟨entries, ended⟩, hscan, -⟩ := bind_eq_ok.mp heq.symm
  refine ⟨entries, ?_⟩
  have hended : ended ≠ true := fun htrue => hend ((ended_iff hscan).mp htrue)
  rw [directoryTurn_of_accepted hcluster haccepted, hscan, ok_bind, afterScan, if_neg hended, hnext]
  rfl

instance : Finite UInt32 := Finite.of_injective UInt32.toFin fun _ _ h => UInt32.toFin_inj.mp h

/-- The loop of `readDirectoryEntries` ends, without a fault, exactly in harmless chains. -/
theorem chain_ends_iff : Ends Stop.unfinished v.directoryTurn cluster ↔
    ∀ next, ReflTransGen v.Continues cluster next →
      (IsCluster next → v.RegionHarmless (v.getClusterOffset next) v.getBytesPerCluster) ∧
      ¬ TransGen v.Continues next next := by
  rw [ends_iff_of_steps (fun _ _ => continues_of_goes) fun _ _ _ => goes_of_continues]
  refine forall_congr' fun next => imp_congr_right fun _ => and_congr_left' ?_
  exact directoryTurn_ok_iff

theorem rootSize_div (v : FATParser) : v.rootSize.toNat / FATDirectoryEntry.size = v.bootSector.rootEntryCount.toNat := by
  have hcount := v.bootSector.rootEntryCount.toNat_lt
  have hthirtytwo : (32 : UInt32).toNat = 32 := rfl
  rw [rootSize, UInt32.toNat_mul, UInt16.toNat_toUInt32, hthirtytwo, FATDirectoryEntry.size]
  omega

theorem readDirectoryEntries_root (hroot : v.IsRoot cluster) (fuel : Nat) : v.readDirectoryEntries fuel cluster =
    if v.Accepted v.rootOffset v.rootSize then
      appendEntries v.imageData v.bootSector.rootEntryCount.toNat v.rootOffset.toNat [] >>= fun result =>
        .ok (result.1, true)
    else .ok ([], false) := by
  rw [readDirectoryEntries, if_pos hroot]
  by_cases haccepted : v.Accepted v.rootOffset v.rootSize
  · rw [if_pos haccepted, if_neg (Nat.not_lt.mpr haccepted)]
    rfl
  · rw [if_neg haccepted, if_pos (Nat.not_le.mp haccepted)]

/-- **A directory can be read** exactly if it is harmless. -/
theorem readDirectoryEntries_ok_iff :
    (∃ fuel result, v.readDirectoryEntries fuel cluster = .ok result) ↔ v.DirectoryHarmless cluster := by
  by_cases hroot : v.IsRoot cluster
  · have hiff : (∃ fuel result, v.readDirectoryEntries fuel cluster = .ok result) ↔
        v.RegionHarmless v.rootOffset v.rootSize := by
      simp only [readDirectoryEntries_root hroot, RegionHarmless, rootSize_div]
      by_cases haccepted : v.Accepted v.rootOffset v.rootSize
      · simp only [haccepted, true_imp_iff]
        rw [← @appendEntries_ok_iff _ _ _ []]
        constructor
        · rintro ⟨-, result, h⟩
          obtain ⟨rest, hrest, -⟩ := bind_eq_ok.mp h
          exact ⟨rest, hrest⟩
        · rintro ⟨rest, hrest⟩
          rw [hrest]
          exact ⟨0, _, rfl⟩
      · simp only [haccepted, false_imp_iff, iff_true]
        exact ⟨0, _, rfl⟩
    rw [hiff]
    exact ⟨fun h => ⟨fun _ => h, fun hnot => absurd hroot hnot, fun hnot => absurd hroot hnot⟩, fun h => h.root hroot⟩
  · have hiff : (∃ fuel result, v.readDirectoryEntries fuel cluster = .ok result) ↔
        Ends Stop.unfinished v.directoryTurn cluster := by
      simp only [readDirectoryEntries, if_neg hroot, Ends]
    rw [hiff, chain_ends_iff]
    constructor
    · intro h
      exact ⟨fun his => absurd his hroot, fun _ next hnext => (h next hnext).1, fun _ next hnext => (h next hnext).2⟩
    · intro h next hnext
      exact ⟨h.inside hroot next hnext, h.acyclic hroot next hnext⟩

theorem holds_of_read {fuel : Nat} (h : v.readDirectoryEntries fuel cluster = .ok (entries, true)) :
    v.Holds cluster entries := by
  by_cases hroot : v.IsRoot cluster
  · rw [Holds, if_pos hroot]
    rw [readDirectoryEntries_root hroot] at h
    split at h
    · next haccepted =>
        obtain ⟨⟨entries', ended⟩, hscan, heq⟩ := bind_eq_ok.mp h
        cases heq
        exact ⟨haccepted, ended, hscan⟩
    · cases h
  · rw [Holds, if_neg hroot]
    rw [readDirectoryEntries, if_neg hroot] at h
    exact yields_of_run h

theorem read_of_holds (h : v.Holds cluster entries) :
    ∃ fuel, v.readDirectoryEntries fuel cluster = .ok (entries, true) := by
  by_cases hroot : v.IsRoot cluster
  · rw [Holds, if_pos hroot] at h
    obtain ⟨haccepted, ended, hscan⟩ := h
    refine ⟨0, ?_⟩
    rw [readDirectoryEntries_root hroot, if_pos haccepted, hscan]
    rfl
  · rw [Holds, if_neg hroot] at h
    obtain ⟨fuel, hrun⟩ := run_of_yields h
    refine ⟨fuel, ?_⟩
    rw [readDirectoryEntries, if_neg hroot, hrun]

theorem readDirectoryEntries_mono {fuel fuel' : Nat} {result : List DirectoryEntryInfo × Bool}
    (h : v.readDirectoryEntries fuel cluster = .ok result) (hle : fuel ≤ fuel') :
    v.readDirectoryEntries fuel' cluster = .ok result := by
  by_cases hroot : v.IsRoot cluster
  · rw [readDirectoryEntries_root hroot] at h ⊢
    exact h
  · rw [readDirectoryEntries, if_neg hroot] at h ⊢
    exact run_mono h hle

end Directories

/-! ## Paths -/

section Lookups
variable {v : FATParser} {cluster next : UInt32} {name : Text} {names : List Text} {info : FATFileInfo}
  {result : Option FATFileInfo}

theorem findFileInDirectory_mono {fuel fuel' : Nat} (h : v.findFileInDirectory fuel name cluster = .ok result)
    (hle : fuel ≤ fuel') : v.findFileInDirectory fuel' name cluster = .ok result := by
  obtain ⟨listing, hlisting, hresult⟩ := bind_eq_ok.mp h
  rw [findFileInDirectory, readDirectoryEntries_mono hlisting hle]
  exact hresult

theorem names_iff : v.Names cluster name info ↔ ∃ fuel, v.findFileInDirectory fuel name cluster = .ok (some info) := by
  constructor
  · rintro ⟨entries, hholds, hfound⟩
    obtain ⟨fuel, hread⟩ := read_of_holds hholds
    refine ⟨fuel, ?_⟩
    rw [findFileInDirectory, hread, ok_bind, ← hfound]
    rfl
  · rintro ⟨fuel, h⟩
    obtain ⟨⟨entries, success⟩, hread, hfound⟩ := bind_eq_ok.mp h
    have hfound := Except.ok.inj hfound
    cases success with
    | false => cases hfound
    | true => exact ⟨entries, holds_of_read hread, hfound⟩

theorem findFileInDirectory_ok_iff :
    (∃ fuel result, v.findFileInDirectory fuel name cluster = .ok result) ↔ v.DirectoryHarmless cluster := by
  rw [← readDirectoryEntries_ok_iff]
  refine exists_congr fun fuel => ?_
  constructor
  · rintro ⟨result, h⟩
    obtain ⟨listing, hlisting, -⟩ := bind_eq_ok.mp h
    exact ⟨listing, hlisting⟩
  · rintro ⟨listing, hlisting⟩
    rw [findFileInDirectory, hlisting]
    exact ⟨_, rfl⟩

/-- What a name stands for does not depend on the fuel. -/
theorem found_eq {fuel : Nat} (hnames : v.Names cluster name info)
    (h : v.findFileInDirectory fuel name cluster = .ok result) : result = some info := by
  obtain ⟨fuel', h'⟩ := names_iff.mp hnames
  have hmax := findFileInDirectory_mono h (Nat.le_max_left fuel fuel')
  rw [findFileInDirectory_mono h' (Nat.le_max_right fuel fuel')] at hmax
  exact (Except.ok.inj hmax).symm

/-- The step of `follow` from one directory to the next. -/
def descend (v : FATParser) (fuel : Nat) (names : List Text) :
    Option FATFileInfo → Except Stop (Option FATFileInfo)
  | none => .ok none
  | some info => if info.isDirectory then v.follow fuel info.firstCluster names else .ok none

theorem follow_cons_cons (v : FATParser) (fuel : Nat) (cluster : UInt32) (name name' : Text) (names : List Text) :
    v.follow fuel cluster (name :: name' :: names) =
      (v.findFileInDirectory fuel name cluster >>= v.descend fuel (name' :: names)) := by
  rw [follow]
  congr 1

theorem follow_mono {fuel fuel' : Nat} (h : v.follow fuel cluster names = .ok result) (hle : fuel ≤ fuel') :
    v.follow fuel' cluster names = .ok result := by
  induction names generalizing cluster with
  | nil => exact h
  | cons name names ih =>
      cases names with
      | nil => exact findFileInDirectory_mono h hle
      | cons name' names =>
          rw [follow_cons_cons] at h ⊢
          obtain ⟨found, hfound, hdescend⟩ := bind_eq_ok.mp h
          rw [findFileInDirectory_mono hfound hle, ok_bind]
          cases found with
          | none => exact hdescend
          | some info =>
              rw [descend] at hdescend ⊢
              split
              · rw [if_pos ‹_›] at hdescend
                exact ih hdescend
              · rw [if_neg ‹_›] at hdescend
                exact hdescend

/-- **A path can be followed** exactly if the directories it opens are harmless; the last name opens none. -/
theorem follow_ok_iff : (∃ fuel result, v.follow fuel cluster (name :: names) = .ok result) ↔
    ∀ next, v.Opens cluster (name :: names).dropLast next → v.DirectoryHarmless next := by
  induction names generalizing cluster name with
  | nil =>
      have hfirst : (∃ fuel result, v.follow fuel cluster [name] = .ok result) ↔ v.DirectoryHarmless cluster :=
        findFileInDirectory_ok_iff
      rw [hfirst]
      constructor
      · intro h next hopens
        cases hopens with
        | here => exact h
      · intro h
        exact h cluster (.here cluster _)
  | cons name' names ih =>
      simp only [follow_cons_cons]
      constructor
      · rintro ⟨fuel, result, h⟩ next hopens
        obtain ⟨found, hfound, hdescend⟩ := bind_eq_ok.mp h
        rw [List.dropLast_cons_cons] at hopens
        cases hopens with
        | here => exact findFileInDirectory_ok_iff.mp ⟨fuel, found, hfound⟩
        | down hnames hdirectory hopens =>
            rw [found_eq hnames hfound, descend, if_pos hdirectory] at hdescend
            exact ih.mp ⟨fuel, result, hdescend⟩ next hopens
      · intro h
        rw [List.dropLast_cons_cons] at h
        obtain ⟨fuel, found, hfound⟩ := (@findFileInDirectory_ok_iff _ _ name).mpr (h cluster (.here cluster _))
        cases found with
        | none =>
            refine ⟨fuel, none, ?_⟩
            rw [hfound]
            rfl
        | some info =>
            by_cases hdirectory : info.isDirectory = true
            · have hnames := names_iff.mpr ⟨fuel, hfound⟩
              obtain ⟨fuel', result, hrest⟩ := ih.mpr fun next hopens => h next (.down hnames hdirectory hopens)
              refine ⟨max fuel fuel', result, ?_⟩
              rw [findFileInDirectory_mono hfound (Nat.le_max_left _ _), ok_bind, descend, if_pos hdirectory]
              exact follow_mono hrest (Nat.le_max_right _ _)
            · refine ⟨fuel, none, ?_⟩
              rw [hfound, ok_bind, descend, if_neg hdirectory]

/-- The directories that a path opens, and the one that it ends at. -/
theorem opens_iff : v.Opens cluster (name :: names) next ↔ v.Opens cluster (name :: names).dropLast next ∨
    ∃ fuel info, v.follow fuel cluster (name :: names) = .ok (some info) ∧ info.isDirectory = true ∧
      next = info.firstCluster := by
  induction names generalizing cluster name with
  | nil =>
      constructor
      · intro hopens
        cases hopens with
        | here => exact .inl (.here _ _)
        | down hnames hdirectory hopens =>
            cases hopens with
            | here =>
                obtain ⟨fuel, hfound⟩ := names_iff.mp hnames
                exact .inr ⟨fuel, _, hfound, hdirectory, rfl⟩
      · rintro (hopens | ⟨fuel, info, hfound, hdirectory, rfl⟩)
        · cases hopens with
          | here => exact .here _ _
        · exact .down (names_iff.mpr ⟨fuel, hfound⟩) hdirectory (.here _ _)
  | cons name' names ih =>
      rw [List.dropLast_cons_cons]
      constructor
      · intro hopens
        cases hopens with
        | here => exact .inl (.here _ _)
        | down hnames hdirectory hopens =>
            rcases ih.mp hopens with hopens | ⟨fuel, info', hfollow, hdirectory', rfl⟩
            · exact .inl (.down hnames hdirectory hopens)
            · obtain ⟨fuel', hfound⟩ := names_iff.mp hnames
              refine .inr ⟨max fuel fuel', info', ?_, hdirectory', rfl⟩
              rw [follow_cons_cons, findFileInDirectory_mono hfound (Nat.le_max_right _ _), ok_bind, descend,
                if_pos hdirectory]
              exact follow_mono hfollow (Nat.le_max_left _ _)
      · rintro (hopens | ⟨fuel, info', hfollow, hdirectory', rfl⟩)
        · cases hopens with
          | here => exact .here _ _
          | down hnames hdirectory hopens => exact .down hnames hdirectory (ih.mpr (.inl hopens))
        · rw [follow_cons_cons] at hfollow
          obtain ⟨found, hfound, hdescend⟩ := bind_eq_ok.mp hfollow
          cases found with
          | none => cases hdescend
          | some info =>
              rw [descend] at hdescend
              split at hdescend
              · next hdirectory =>
                  exact .down (names_iff.mpr ⟨fuel, hfound⟩) hdirectory
                    (ih.mpr (.inr ⟨fuel, info', hdescend, hdirectory', rfl⟩))
              · cases hdescend

theorem listCluster_ok_iff : (∃ fuel result, v.listCluster fuel cluster = .ok result) ↔ v.DirectoryHarmless cluster := by
  rw [← readDirectoryEntries_ok_iff]
  refine exists_congr fun fuel => ?_
  constructor
  · rintro ⟨result, h⟩
    obtain ⟨listing, hlisting, -⟩ := bind_eq_ok.mp h
    exact ⟨listing, hlisting⟩
  · rintro ⟨listing, hlisting⟩
    rw [listCluster, hlisting]
    exact ⟨_, rfl⟩

theorem listCluster_mono {fuel fuel' : Nat} {result : Option (List FATFileInfo)}
    (h : v.listCluster fuel cluster = .ok result) (hle : fuel ≤ fuel') : v.listCluster fuel' cluster = .ok result := by
  obtain ⟨listing, hlisting, hresult⟩ := bind_eq_ok.mp h
  rw [listCluster, readDirectoryEntries_mono hlisting hle]
  exact hresult

/-- What `listDirectory` does after the lookup. -/
def listFound (v : FATParser) (fuel : Nat) : Option FATFileInfo → Except Stop (Option (List FATFileInfo))
  | none => .ok none
  | some info => if info.isDirectory then v.listCluster fuel info.firstCluster else .ok none

theorem listDirectory_of_not_root {path : Text} (h : isRootPath path = false) (fuel : Nat) :
    v.listDirectory fuel path = (v.findFile fuel path >>= v.listFound fuel) := by
  rw [listDirectory, h, if_neg (by simp)]
  congr 1

/-- **Lookups and listings end**, without a fault, exactly if the directories on the way are harmless. -/
theorem lookups_ok_iff (v : FATParser) (path : Text) :
    ((∃ fuel result, v.findFile fuel path = .ok result) ∧ ∃ fuel result, v.listDirectory fuel path = .ok result) ↔
    (isRootPath path ∨ components path ≠ [] → ∀ next, v.Opens 0 (components path) next → v.DirectoryHarmless next) := by
  by_cases hpath : isRootPath path = true
  · have hnames : components path = [] := by
      rcases of_decide_eq_true hpath with h | h | h <;> rw [h] <;> rfl
    have hfind : ∃ fuel result, v.findFile fuel path = .ok result := by
      refine ⟨0, none, ?_⟩
      rw [findFile, hnames]
      rfl
    have hlist : (∃ fuel result, v.listDirectory fuel path = .ok result) ↔ v.DirectoryHarmless 0 := by
      rw [← listCluster_ok_iff]
      simp only [listDirectory, hpath, if_true]
    rw [hlist, hnames]
    constructor
    · rintro ⟨-, h⟩ - next hopens
      cases hopens with
      | here => exact h
    · intro h
      exact ⟨hfind, h (.inl hpath) 0 (.here 0 [])⟩
  · have hpath : isRootPath path = false := Bool.eq_false_of_not_eq_true hpath
    simp only [listDirectory_of_not_root hpath, findFile, hpath, Bool.false_eq_true, false_or]
    cases hnames : components path with
    | nil =>
        refine ⟨fun _ hne => absurd rfl hne, fun _ => ⟨⟨0, none, rfl⟩, 0, none, rfl⟩⟩
    | cons name names =>
        constructor
        · rintro ⟨hfind, fuel, result, h⟩ - next hopens
          rcases opens_iff.mp hopens with hopens | ⟨fuel', info, hfollow, hdirectory, rfl⟩
          · exact follow_ok_iff.mp hfind next hopens
          · obtain ⟨found, hfound, hlist⟩ := bind_eq_ok.mp h
            have hmax := follow_mono hfound (Nat.le_max_left fuel fuel')
            rw [follow_mono hfollow (Nat.le_max_right fuel fuel')] at hmax
            rw [← Except.ok.inj hmax, listFound, if_pos hdirectory] at hlist
            exact listCluster_ok_iff.mp ⟨fuel, result, hlist⟩
        · intro h
          have h := h (List.cons_ne_nil _ _)
          obtain ⟨fuel, found, hfound⟩ := follow_ok_iff.mpr fun next hopens => h next (opens_iff.mpr (.inl hopens))
          refine ⟨⟨fuel, found, hfound⟩, ?_⟩
          cases found with
          | none =>
              refine ⟨fuel, none, ?_⟩
              rw [hfound]
              rfl
          | some info =>
              by_cases hdirectory : info.isDirectory = true
              · obtain ⟨fuel', result, hlist⟩ := listCluster_ok_iff.mpr
                  (h _ (opens_iff.mpr (.inr ⟨fuel, info, hfound, hdirectory, rfl⟩)))
                refine ⟨max fuel fuel', result, ?_⟩
                rw [follow_mono hfound (Nat.le_max_left _ _), ok_bind, listFound, if_pos hdirectory]
                exact listCluster_mono hlist (Nat.le_max_right _ _)
              · refine ⟨fuel, none, ?_⟩
                rw [hfound, ok_bind, listFound, if_neg hdirectory]

end Lookups

/-! ## Files -/

section Files
variable {v : FATParser} {size : UInt32} {s t : UInt32 × UInt32} {info : FATFileInfo}

theorem bytesPerCluster_pos (v : FATParser) : 0 < v.getBytesPerCluster.toNat := by
  have hcluster : 0 < v.bootSector.sectorsPerCluster.toNat :=
    Nat.pos_of_ne_zero fun hzero => v.bootSector.cluster (UInt8.toNat_inj.mp hzero)
  have hcluster_lt := v.bootSector.sectorsPerCluster.toNat_lt
  have hsector_le := FATBootSector.bytesPerSector_le v.bootSector.sector
  have hsector : 0 < v.bootSector.bytesPerSector.toNat := by
    rcases v.bootSector.sector with h | h | h | h <;> rw [h] <;> decide
  have hpos := Nat.mul_pos hcluster hsector
  have hle : v.bootSector.sectorsPerCluster.toNat * v.bootSector.bytesPerSector.toNat ≤ 255 * 4096 :=
    Nat.mul_le_mul (by omega) hsector_le
  rw [getBytesPerCluster, FATBootSector.bytesPerCluster, UInt32.toNat_mul, UInt8.toNat_toUInt32, UInt16.toNat_toUInt32,
    Nat.mod_eq_of_lt (by omega)]
  exact hpos

/-- A piece is not empty, and no longer than what is left of the file. -/
theorem piece_bounds (v : FATParser) {bytesRead : UInt32} (h : bytesRead < size) :
    0 < (v.piece size bytesRead).toNat ∧ bytesRead.toNat + (v.piece size bytesRead).toNat ≤ size.toNat := by
  have hlt := UInt32.lt_iff_toNat_lt.mp h
  have hsub : (size - bytesRead).toNat = size.toNat - bytesRead.toNat := UInt32.toNat_sub_of_le _ _ (UInt32.le_iff_toNat_le.mpr hlt.le)
  have hmin : (v.piece size bytesRead).toNat = min v.getBytesPerCluster.toNat (size - bytesRead).toNat := by
    show (if v.getBytesPerCluster ≤ size - bytesRead then v.getBytesPerCluster else size - bytesRead).toNat = _
    split
    · next hle => exact (Nat.min_eq_left (UInt32.le_iff_toNat_le.mp hle)).symm
    · next hgt => exact (Nat.min_eq_right (Nat.le_of_lt (UInt32.lt_iff_toNat_lt.mp (UInt32.not_le.mp hgt)))).symm
  have hpos := bytesPerCluster_pos v
  rw [hmin, hsub]
  omega

/-- One turn of the loop, in the terms of `FileContinues`. -/
theorem fileTurn_eq (v : FATParser) (size : UInt32) (s : UInt32 × UInt32) : v.fileTurn size s =
    if IsCluster s.1 ∧ s.2 < size then
      if v.Accepted (v.getClusterOffset s.1) (v.piece size s.2) then
        if (v.getClusterOffset s.1).toNat + (v.piece size s.2).toNat ≤ v.imageData.length then
          v.getNextCluster s.1 >>= fun next =>
            .ok (.again ((v.imageData.drop (v.getClusterOffset s.1).toNat).take (v.piece size s.2).toNat)
              (next, s.2 + v.piece size s.2))
        else .error .outsideImage
      else .ok (.leave [] false)
    else .ok (.leave [] (s.2 = size)) := by
  rw [fileTurn]
  refine if_congr Iff.rfl ?_ rfl
  by_cases haccepted : v.Accepted (v.getClusterOffset s.1) (v.piece size s.2)
  · rw [if_pos haccepted]
    exact if_neg (Nat.not_lt.mpr haccepted)
  · rw [if_neg haccepted]
    exact if_pos (Nat.not_le.mp haccepted)

theorem fileTurn_ok_iff : (∃ turn, v.fileTurn size s = .ok turn) ↔
    (IsCluster s.1 ∧ s.2 < size → v.Accepted (v.getClusterOffset s.1) (v.piece size s.2) →
      (v.getClusterOffset s.1).toNat + (v.piece size s.2).toNat ≤ v.imageData.length) := by
  rw [fileTurn_eq]
  by_cases hgoes : IsCluster s.1 ∧ s.2 < size
  · rw [if_pos hgoes]
    by_cases haccepted : v.Accepted (v.getClusterOffset s.1) (v.piece size s.2)
    · rw [if_pos haccepted]
      by_cases hinside : (v.getClusterOffset s.1).toNat + (v.piece size s.2).toNat ≤ v.imageData.length
      · obtain ⟨next, hnext⟩ := getNextCluster_ok v s.1
        rw [if_pos hinside, hnext]
        exact ⟨fun _ _ _ => hinside, fun _ => ⟨_, rfl⟩⟩
      · rw [if_neg hinside]
        refine ⟨?_, fun h => absurd (h hgoes haccepted) hinside⟩
        rintro ⟨_, h⟩
        cases h
    · rw [if_neg haccepted]
      exact ⟨fun _ _ h => absurd h haccepted, fun _ => ⟨_, rfl⟩⟩
  · rw [if_neg hgoes]
    exact ⟨fun _ h => absurd h hgoes, fun _ => ⟨_, rfl⟩⟩

theorem fileContinues_of_goes (h : Goes (v.fileTurn size) s t) : v.FileContinues size s t := by
  obtain ⟨out, h⟩ := h
  rw [fileTurn_eq] at h
  split at h
  · next hgoes =>
      split at h
      · next haccepted =>
          split at h
          · obtain ⟨next, hnext, heq⟩ := bind_eq_ok.mp h
            cases heq
            exact ⟨hgoes, haccepted, hnext, rfl⟩
          · cases h
      · cases h
  · cases h

theorem goes_of_fileContinues {turn : Turn (UInt32 × UInt32) UInt8 Bool} (hturn : v.fileTurn size s = .ok turn)
    (h : v.FileContinues size s t) : Goes (v.fileTurn size) s t := by
  obtain ⟨hgoes, haccepted, hnext, hread⟩ := h
  have hinside := fileTurn_ok_iff.mp ⟨turn, hturn⟩ hgoes haccepted
  refine ⟨(v.imageData.drop (v.getClusterOffset s.1).toNat).take (v.piece size s.2).toNat, ?_⟩
  rw [fileTurn_eq, if_pos hgoes, if_pos haccepted, if_pos hinside, hnext, ok_bind, ← hread]

/-- The bytes that were read grow in number, so no state comes back. -/
theorem lt_of_fileContinues (h : TransGen (v.FileContinues size) s t) : s.2.toNat < t.2.toNat := by
  have hstep : ∀ s t, v.FileContinues size s t → s.2.toNat < t.2.toNat := by
    rintro s t ⟨⟨-, hlt⟩, -, -, hread⟩
    obtain ⟨hpos, hle⟩ := piece_bounds v hlt
    have := size.toNat_lt
    rw [hread, UInt32.toNat_add, Nat.mod_eq_of_lt (by omega)]
    omega
  induction h with
  | single h => exact hstep _ _ h
  | tail _ h ih => exact Nat.lt_trans ih (hstep _ _ h)

/-- **A file can be read** exactly if it is harmless, whatever its chain is. -/
theorem readFile_ok_iff : (∃ fuel result, v.readFile fuel info = .ok result) ↔ v.FileHarmless info := by
  unfold FileHarmless
  cases hdirectory : info.isDirectory with
  | true =>
      refine ⟨fun _ hfile => (nomatch hfile), fun _ => ⟨0, ([], false), ?_⟩⟩
      rw [readFile, if_pos hdirectory]
  | false =>
      have hiff : (∃ fuel result, v.readFile fuel info = .ok result) ↔
          Ends Stop.unfinished (v.fileTurn info.size) (info.firstCluster, 0) := by
        simp only [readFile, hdirectory, Bool.false_eq_true, if_false, Ends]
      rw [hiff, ends_iff_of_steps (fun _ _ => fileContinues_of_goes) fun _ _ _ => goes_of_fileContinues]
      simp only [true_imp_iff, fileTurn_ok_iff]
      constructor
      · intro h s hreaches
        exact (h s hreaches).1
      · intro h s hreaches
        exact ⟨h s hreaches, fun hback => Nat.lt_irrefl _ (lt_of_fileContinues hback)⟩

end Files

end FATParser

/-! ## Survival -/

/-- **Hostile images.** The parser survives exactly the harmless ones. -/
theorem hostileFAT_iff (image : List UInt8) (path : Text) (info : FATFileInfo) :
    Survives image path info ↔ Harmless image path info := by
  constructor
  · rintro ⟨hparses, hfinds, hlists, hreads⟩
    refine ⟨parse_ok_iff.mp hparses, fun v hv => ?_, fun v hv => ?_⟩
    · exact (FATParser.lookups_ok_iff v path).mp ⟨hfinds v (parse_of_reads hv), hlists v (parse_of_reads hv)⟩
    · exact FATParser.readFile_ok_iff.mp (hreads v (parse_of_reads hv))
  · rintro ⟨hclusters, hdirectories, hfile⟩
    refine ⟨parse_ok_iff.mpr hclusters, fun v hv => ?_, fun v hv => ?_, fun v hv => ?_⟩
    · exact ((FATParser.lookups_ok_iff v path).mpr (hdirectories v (reads_of_parse hv))).1
    · exact ((FATParser.lookups_ok_iff v path).mpr (hdirectories v (reads_of_parse hv))).2
    · exact FATParser.readFile_ok_iff.mpr (hfile v (reads_of_parse hv))

/-- The boot sector of five sectors of 512 bytes: itself, the table, the root directory and two clusters. -/
def smallVolume (sectorsPerCluster : UInt8) : List UInt8 :=
  List.replicate 11 0 ++ [0x00, 0x02, sectorsPerCluster, 0x01, 0x00, 0x01, 0x10, 0x00, 0x05, 0x00, 0xF8, 0x01, 0x00] ++
    List.replicate 38 0

/-- A directory of one letter at a cluster. -/
def directoryAt (name : UInt8) (firstCluster : List UInt8) : List UInt8 :=
  name :: List.replicate 10 0x20 ++ [ATTR_DIRECTORY] ++ List.replicate 8 0 ++ firstCluster.drop 2 ++
    List.replicate 4 0 ++ firstCluster.take 2 ++ List.replicate 4 0

/-- In the table cluster 2 is the successor of cluster 2. It is the directory `A`, which holds deleted entries only. The
cluster of the directory `B` begins 512 bytes below 2 ^ 32. -/
def hostileBytes : List UInt8 :=
  smallVolume 1 ++ List.replicate 450 0 ++ ([0xF8, 0xFF, 0xFF, 0x02, 0x00] ++ List.replicate 507 0) ++
    (directoryAt 0x41 [2, 0, 0, 0] ++ directoryAt 0x42 [0xFE, 0xFF, 0x7F, 0] ++ List.replicate 448 0) ++
    List.replicate 512 0xE5

def hostileParser : FATParser where
  imageData := hostileBytes
  bootSector := ⟨.ofBytes hostileBytes, by decide +kernel, by decide +kernel⟩
  fatTable := (hostileBytes.drop 512).take 512
  inside := by decide +kernel
  copied := by decide +kernel

/-- A file in the cluster of `B`. -/
def farFile : FATFileInfo := ⟨[0x43], false, 512, 0x7FFFFE, 0x20⟩

theorem hostileParser_circular : hostileParser.Continues 2 2 := by
  refine ⟨by decide +kernel, by decide +kernel, ?_, ?_⟩
  · rintro ⟨i, hi, hmarker⟩
    revert i
    decide +kernel
  · decide +kernel

/-- **A volume without sectors in a cluster, a circular directory, and a cluster that wraps around.** -/
theorem hostileFAT_fails :
    parse (smallVolume 0) = .error .dividesByZero ∧
    (∀ fuel result, hostileParser.findFile fuel (text "A/X") ≠ .ok result) ∧
    hostileParser.findFile 1 (text "B/X") = .error .outsideImage ∧
    hostileParser.readFile 1 farFile = .error .outsideImage ∧
    ¬ ∀ image path info, Survives image path info := by
  have hzero : parse (smallVolume 0) = .error .dividesByZero := rfl
  refine ⟨hzero, ?_, by decide +kernel, by decide +kernel, ?_⟩
  · intro fuel result hfind
    have hnames : hostileParser.Names 0 [0x41] ⟨[0x41], true, 0, 2, ATTR_DIRECTORY⟩ :=
      FATParser.names_iff.mpr ⟨0, by decide +kernel⟩
    have hopens : hostileParser.Opens 0 [[0x41], [0x58]].dropLast 2 := .down hnames rfl (.here _ _)
    have hfollow : hostileParser.follow fuel 0 [[0x41], [0x58]] = .ok result := hfind
    have hharmless := FATParser.follow_ok_iff.mp ⟨fuel, result, hfollow⟩ 2 hopens
    exact hharmless.acyclic (by decide +kernel) 2 .refl (.single hostileParser_circular)
  · intro h
    obtain ⟨result, hok⟩ := (h (smallVolume 0) [] farFile).parses
    rw [hzero] at hok
    cases hok

end GuideXOS.Storage.FAT
