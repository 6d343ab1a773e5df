import Mathlib.Data.UInt
import GuideXOS.Core.Text
import GuideXOS.Lib.Loops
import GuideXOS.Lib.Words

/-!
# `FATParser` — FAT file systems in a byte string

The parser works on an image in memory. It copies the boot sector and the first file allocation table, and takes directories
and files from the image cluster by cluster along the chains of the table. Offsets are 32-bit words that wrap around and
are compared with the size of the image, which is a 64-bit one.

* A byte outside of the image or of the table is an outcome of its own (`Stop`), as is a division by zero. The loops
  run as long as there is fuel.
* The members that `parse` computes from the boot sector are functions of it. A parser that rejected its image has no
  value, and every operation of it returns `false`.
* The fields that no operation reads are left out.
-/

namespace GuideXOS.Storage.FAT
open Core Lib Lib.Words Lib.Loops

/-- Why a call has no result. -/
inductive Stop
  | dividesByZero
  | outsideImage
  | outsideTable
  | unfinished
  deriving DecidableEq

/-! ## The boot sector -/

structure FATBootSector where
  bytesPerSector : UInt16
  sectorsPerCluster : UInt8
  reservedSectors : UInt16
  numFATs : UInt8
  rootEntryCount : UInt16
  totalSectors16 : UInt16
  sectorsPerFAT : UInt16
  totalSectors32 : UInt32
  deriving DecidableEq

inductive FATType
  | FAT12 | FAT16 | FAT32
  deriving DecidableEq

namespace FATBootSector

/-- The size of the structure. -/
def size : Nat := 62

def ofBytes (image : List UInt8) : FATBootSector where
  bytesPerSector := (wordAt image 11 2).toUInt16
  sectorsPerCluster := (wordAt image 13 1).toUInt8
  reservedSectors := (wordAt image 14 2).toUInt16
  numFATs := (wordAt image 16 1).toUInt8
  rootEntryCount := (wordAt image 17 2).toUInt16
  totalSectors16 := (wordAt image 19 2).toUInt16
  sectorsPerFAT := (wordAt image 22 2).toUInt16
  totalSectors32 := (wordAt image 32 4).toUInt32

variable (boot : FATBootSector)

def totalSectors : UInt32 := if boot.totalSectors16 ≠ 0 then boot.totalSectors16.toUInt32 else boot.totalSectors32

def rootDirSectors : UInt32 :=
  (boot.rootEntryCount.toUInt32 * 32 + (boot.bytesPerSector.toUInt32 - 1)) / boot.bytesPerSector.toUInt32

def fatSz : UInt32 := boot.sectorsPerFAT.toUInt32

def dataSectors : UInt32 :=
  boot.totalSectors - (boot.reservedSectors.toUInt32 + boot.numFATs.toUInt32 * boot.fatSz + boot.rootDirSectors)

def totalClusters : UInt32 := boot.dataSectors / boot.sectorsPerCluster.toUInt32

def fatType : FATType :=
  if boot.totalClusters < 4085 then .FAT12 else if boot.totalClusters < 65525 then .FAT16 else .FAT32

def rootDirSector : UInt32 := boot.reservedSectors.toUInt32 + boot.numFATs.toUInt32 * boot.fatSz

def dataSector : UInt32 := boot.rootDirSector + boot.rootDirSectors

/-- The sizes of sectors that the parser accepts. -/
def ValidSector : Prop :=
  boot.bytesPerSector = 512 ∨ boot.bytesPerSector = 1024 ∨ boot.bytesPerSector = 2048 ∨ boot.bytesPerSector = 4096

instance : Decidable boot.ValidSector := by
  unfold ValidSector
  infer_instance

def fatSize : UInt32 := boot.sectorsPerFAT.toUInt32 * boot.bytesPerSector.toUInt32

def fatOffset : UInt32 := boot.reservedSectors.toUInt32 * boot.bytesPerSector.toUInt32

def bytesPerCluster : UInt32 := boot.sectorsPerCluster.toUInt32 * boot.bytesPerSector.toUInt32

end FATBootSector

/-- A boot sector that `parseBootSector` accepts. -/
structure Geometry extends FATBootSector where
  sector : toFATBootSector.ValidSector
  cluster : sectorsPerCluster ≠ 0

def parseBootSector (image : List UInt8) : Except Stop (Option Geometry) :=
  let boot := FATBootSector.ofBytes image
  if hsector : boot.ValidSector then
    if hcluster : boot.sectorsPerCluster = 0 then .error .dividesByZero
    else .ok (some ⟨boot, hsector, hcluster⟩)
  else .ok none

/-! ## The file allocation table -/

/-- A parser that accepted its image, with its copy of the table. -/
structure FATParser where
  imageData : List UInt8
  bootSector : Geometry
  fatTable : List UInt8
  inside : bootSector.fatOffset.toNat + bootSector.fatSize.toNat ≤ imageData.length
  copied : fatTable = (imageData.drop bootSector.fatOffset.toNat).take bootSector.fatSize.toNat

def parseFAT (image : List UInt8) (boot : Geometry) : Except Stop (Option FATParser) :=
  if (boot.fatOffset + boot.fatSize).toNat > image.length then .ok none
  else if hinside : boot.fatOffset.toNat + boot.fatSize.toNat ≤ image.length then
    .ok (some ⟨image, boot, (image.drop boot.fatOffset.toNat).take boot.fatSize.toNat, hinside, rfl⟩)
  else .error .outsideImage

def parse (image : List UInt8) : Except Stop (Option FATParser) := do
  if image.length < FATBootSector.size then pure none
  else match ← parseBootSector image with
    | none => pure none
    | some boot => parseFAT image boot

namespace FATParser

variable (v : FATParser)

/-- The end of a chain, or no cluster. -/
def noCluster : UInt32 := 0xFFFFFFFF

/-- The entry of the table at an offset. -/
def tableWord (offset : UInt32) (n : Nat) : Except Stop UInt32 :=
  if offset.toNat + n ≤ v.fatTable.length then .ok (wordAt v.fatTable offset.toNat n).toUInt32
  else .error .outsideTable

def getNextCluster (cluster : UInt32) : Except Stop UInt32 :=
  if cluster < 2 ∨ cluster ≥ v.bootSector.totalClusters + 2 then .ok noCluster
  else match v.bootSector.fatType with
    | .FAT12 => do
        let fatOffset := cluster + cluster / 2
        if (fatOffset + 1).toNat ≥ v.fatTable.length then pure noCluster
        else
          let fatValue ← v.tableWord fatOffset 2
          let nextCluster := if cluster &&& 1 ≠ 0 then fatValue >>> 4 else fatValue &&& 0x0FFF
          pure (if nextCluster ≥ 0x0FF8 then noCluster else nextCluster)
    | .FAT16 => do
        let fatOffset := cluster * 2
        if (fatOffset + 1).toNat ≥ v.fatTable.length then pure noCluster
        else
          let nextCluster ← v.tableWord fatOffset 2
          pure (if nextCluster ≥ 0xFFF8 then noCluster else nextCluster)
    | .FAT32 => do
        let fatOffset := cluster * 4
        if (fatOffset + 3).toNat ≥ v.fatTable.length then pure noCluster
        else
          let fatValue ← v.tableWord fatOffset 4
          let nextCluster := fatValue &&& 0x0FFFFFFF
          pure (if nextCluster ≥ 0x0FFFFFF8 then noCluster else nextCluster)

def getClusterOffset (cluster : UInt32) : UInt32 :=
  if cluster < 2 then 0
  else (v.bootSector.dataSector + (cluster - 2) * v.bootSector.sectorsPerCluster.toUInt32) *
    v.bootSector.bytesPerSector.toUInt32

def getBytesPerCluster : UInt32 := v.bootSector.bytesPerCluster

end FATParser

/-! ## Directory entries -/

def ATTR_DIRECTORY : UInt8 := 0x10
def ATTR_LONG_NAME : UInt8 := 0x0F

structure FATDirectoryEntry where
  filename : List UInt8
  extension : List UInt8
  attributes : UInt8
  firstClusterHigh : UInt16
  firstClusterLow : UInt16
  fileSize : UInt32
  deriving DecidableEq

namespace FATDirectoryEntry

/-- The size of the structure. -/
def size : Nat := 32

def ofBytes (image : List UInt8) (start : Nat) : FATDirectoryEntry where
  filename := (image.drop start).take 8
  extension := (image.drop (start + 8)).take 3
  attributes := (wordAt image (start + 11) 1).toUInt8
  firstClusterHigh := (wordAt image (start + 20) 2).toUInt16
  firstClusterLow := (wordAt image (start + 26) 2).toUInt16
  fileSize := (wordAt image (start + 28) 4).toUInt32

def firstCluster (entry : FATDirectoryEntry) : UInt32 :=
  entry.firstClusterLow.toUInt32 ||| entry.firstClusterHigh.toUInt32 <<< 16

end FATDirectoryEntry

def getDOSName (entry : FATDirectoryEntry) : Text :=
  let extension := entry.extension.filter (· ≠ 0x20)
  entry.filename.takeWhile (· ≠ 0x20) ++ if extension = [] then [] else 0x2E :: extension

/-! ## Long names -/

/-- Where an entry that is a fragment of a long name has the code units. -/
def kOffsets : List Nat := [1, 3, 5, 7, 9, 14, 16, 18, 20, 22, 24, 28, 30]

/-- The code units up to the terminator, less the padding. -/
def codeUnits (image : List UInt8) (start : Nat) : List UInt16 :=
  ((kOffsets.map fun offset => (wordAt image (start + offset) 2).toUInt16).takeWhile (· ≠ 0)).filter (· ≠ 0xFFFF)

/-- Surrogates in pairs are one code point. -/
def codePoints : List UInt16 → List UInt32
  | [] => []
  | [unit] => [unit.toUInt32]
  | unit :: low :: rest =>
      if 0xD800 ≤ unit ∧ unit ≤ 0xDBFF ∧ 0xDC00 ≤ low ∧ low ≤ 0xDFFF then
        (((0x10000 : UInt32) + ((unit.toUInt32 - 0xD800) <<< 10)) + (low.toUInt32 - 0xDC00)) :: codePoints rest
      else unit.toUInt32 :: codePoints (low :: rest)

/-- A byte after the first: six bits from `shift` on. -/
def continuation (codePoint shift : UInt32) : UInt8 := ((0x80 : UInt32) ||| (codePoint >>> shift &&& 0x3F)).toUInt8

def utf8 (codePoint : UInt32) : Text :=
  if codePoint ≤ 0x7F then [codePoint.toUInt8]
  else if codePoint ≤ 0x7FF then [((0xC0 : UInt32) ||| codePoint >>> 6).toUInt8, continuation codePoint 0]
  else if codePoint ≤ 0xFFFF then
    [((0xE0 : UInt32) ||| codePoint >>> 12).toUInt8, continuation codePoint 6, continuation codePoint 0]
  else
    [((0xF0 : UInt32) ||| codePoint >>> 18).toUInt8, continuation codePoint 12, continuation codePoint 6,
      continuation codePoint 0]

def getLongName (image : List UInt8) (start : Nat) : Text := (codePoints (codeUnits image start)).flatMap utf8

/-! ## Scanning entries -/

/-- The first byte of an entry. -/
def marker (image : List UInt8) (start : Nat) : UInt8 := image.getD start 0

def isFragment (image : List UInt8) (start : Nat) : Bool := image.getD (start + 11) 0 = ATTR_LONG_NAME

/-- How far the code units of a fragment are read: up to the terminator. -/
def unitsEnd (image : List UInt8) (start : Nat) : Nat :=
  match kOffsets.find? fun offset => wordAt image (start + offset) 2 = 0 with
  | some offset => offset + 2
  | none => FATDirectoryEntry.size

/-- **How many bytes of an entry are looked at**: the first of an end marker or a deleted entry, the attributes and the
code units of a fragment, and all of any other. -/
def footprint (image : List UInt8) (start : Nat) : Nat :=
  if marker image start = 0 ∨ marker image start = 0xE5 then 1
  else if isFragment image start then max 12 (unitsEnd image start)
  else FATDirectoryEntry.size

inductive Scanned
  | endMarker
  | deleted
  | fragment (name : Text)
  | entry (entry : FATDirectoryEntry)
  deriving DecidableEq

def scanEntry (image : List UInt8) (start : Nat) : Except Stop Scanned :=
  if start + footprint image start ≤ image.length then
    .ok <|
      if marker image start = 0 then .endMarker
      else if marker image start = 0xE5 then .deleted
      else if isFragment image start then .fragment (getLongName image start)
      else .entry (.ofBytes image start)
  else .error .outsideImage

structure DirectoryEntryInfo where
  entry : FATDirectoryEntry
  longName : Text
  deriving DecidableEq

/-- **`appendEntries`**: the entries up to the end marker, and if there was one. The last fragment of a name comes
first. -/
def appendEntries (image : List UInt8) : Nat → Nat → List Text → Except Stop (List DirectoryEntryInfo × Bool)
  | 0, _, _ => .ok ([], false)
  | n + 1, start, longNameParts => do
      match ← scanEntry image start with
      | .endMarker => pure ([], true)
      | .deleted => appendEntries image n (start + FATDirectoryEntry.size) []
      | .fragment name => appendEntries image n (start + FATDirectoryEntry.size) (name :: longNameParts)
      | .entry entry => do
          let (entries, ended) ← appendEntries image n (start + FATDirectoryEntry.size) []
          pure (⟨entry, longNameParts.flatten⟩ :: entries, ended)

/-! ## Directories -/

namespace FATParser
variable (v : FATParser)

/-- The loops over chains go on at what may be a cluster. -/
def IsCluster (cluster : UInt32) : Prop := cluster ≠ noCluster ∧ cluster ≥ 2

instance (cluster : UInt32) : Decidable (IsCluster cluster) := by
  unfold IsCluster
  infer_instance

/-- One turn of the loop of `readDirectoryEntries`. -/
def directoryTurn (currentCluster : UInt32) : Except Stop (Turn UInt32 DirectoryEntryInfo Bool) :=
  if IsCluster currentCluster then
    let offset := v.getClusterOffset currentCluster
    if (offset + v.getBytesPerCluster).toNat > v.imageData.length then .ok (.leave [] false)
    else do
      let (entries, ended) ←
        appendEntries v.imageData (v.getBytesPerCluster.toNat / FATDirectoryEntry.size) offset.toNat []
      if ended then pure (.leave entries true) else pure (.again entries (← v.getNextCluster currentCluster))
  else .ok (.leave [] true)

def rootOffset : UInt32 := v.bootSector.rootDirSector * v.bootSector.bytesPerSector.toUInt32

def rootSize : UInt32 := v.bootSector.rootEntryCount.toUInt32 * 32

/-- Cluster 0 stands for the root directory, but on FAT32. -/
def IsRoot (cluster : UInt32) : Prop := cluster = 0 ∧ v.bootSector.fatType ≠ .FAT32

instance (cluster : UInt32) : Decidable (v.IsRoot cluster) := by
  unfold IsRoot
  infer_instance

def readDirectoryEntries (fuel : Nat) (cluster : UInt32) : Except Stop (List DirectoryEntryInfo × Bool) :=
  if v.IsRoot cluster then
    if (v.rootOffset + v.rootSize).toNat > v.imageData.length then .ok ([], false)
    else do
      let (entries, _) ← appendEntries v.imageData v.bootSector.rootEntryCount.toNat v.rootOffset.toNat []
      pure (entries, true)
  else run .unfinished v.directoryTurn fuel cluster

end FATParser

/-! ## Paths -/

def isSeparator (c : UInt8) : Bool := c = 0x2F ∨ c = 0x5C

def normalizeSearchComponent (value : Text) : Text := (value.filter fun ch => !isSeparator ch).map toupper

def matchDOSName (dosName searchName : Text) : Bool := dosName.map toupper = searchName.map toupper

structure FATFileInfo where
  name : Text
  isDirectory : Bool
  size : UInt32
  firstCluster : UInt32
  attributes : UInt8
  deriving DecidableEq

namespace DirectoryEntryInfo

variable (info : DirectoryEntryInfo)

def lookupName : Text :=
  if info.longName = [] then getDOSName info.entry else info.longName

def fileInfo : FATFileInfo where
  name := info.lookupName
  isDirectory := info.entry.attributes &&& ATTR_DIRECTORY ≠ 0
  size := info.entry.fileSize
  firstCluster := info.entry.firstCluster
  attributes := info.entry.attributes

/-- An entry is found by its long name or by its short one. -/
def answers (name : Text) (info : DirectoryEntryInfo) : Bool :=
  matchDOSName info.lookupName (normalizeSearchComponent name) ||
    matchDOSName (getDOSName info.entry) (normalizeSearchComponent name)

end DirectoryEntryInfo

/-- The components of a path. The first argument is the component that has begun. -/
def componentsAfter : Text → Text → List Text
  | current, [] => if current = [] then [] else [normalizeSearchComponent current]
  | current, c :: path =>
      if isSeparator c then
        if current = [] then componentsAfter [] path
        else normalizeSearchComponent current :: componentsAfter [] path
      else componentsAfter (current ++ [c]) path

def components (path : Text) : List Text := componentsAfter [] path

namespace FATParser
variable (v : FATParser)

def findFileInDirectory (fuel : Nat) (name : Text) (dirCluster : UInt32) : Except Stop (Option FATFileInfo) := do
  let (entries, success) ← v.readDirectoryEntries fuel dirCluster
  pure (if success then (entries.find? (DirectoryEntryInfo.answers name)).map DirectoryEntryInfo.fileInfo else none)

/-- The loop of `findFile`. -/
def follow (fuel : Nat) : UInt32 → List Text → Except Stop (Option FATFileInfo)
  | _, [] => .ok none
  | currentCluster, [name] => v.findFileInDirectory fuel name currentCluster
  | currentCluster, name :: name' :: names => do
      match ← v.findFileInDirectory fuel name currentCluster with
      | none => pure none
      | some fileInfo =>
          if fileInfo.isDirectory then follow fuel fileInfo.firstCluster (name' :: names) else pure none

def findFile (fuel : Nat) (path : Text) : Except Stop (Option FATFileInfo) := v.follow fuel 0 (components path)

/-- The paths that `listDirectory` takes for the root directory. -/
def isRootPath (path : Text) : Bool := path = [] ∨ path = [0x2F] ∨ path = [0x5C]

def listCluster (fuel : Nat) (dirCluster : UInt32) : Except Stop (Option (List FATFileInfo)) := do
  let (dirEntries, success) ← v.readDirectoryEntries fuel dirCluster
  pure (if success then
    some ((dirEntries.filter fun info => info.entry.filename.headD 0 ≠ 0x2E).map DirectoryEntryInfo.fileInfo) else none)

def listDirectory (fuel : Nat) (path : Text) : Except Stop (Option (List FATFileInfo)) := do
  if isRootPath path then v.listCluster fuel 0
  else match ← v.findFile fuel path with
    | none => pure none
    | some dirInfo => if dirInfo.isDirectory then v.listCluster fuel dirInfo.firstCluster else pure none

/-! ## Files -/

/-- One turn of the loop of `readFile`, at a cluster and with the bytes read so far. -/
def fileTurn (size : UInt32) : UInt32 × UInt32 → Except Stop (Turn (UInt32 × UInt32) UInt8 Bool)
  | (currentCluster, bytesRead) =>
      if IsCluster currentCluster ∧ bytesRead < size then
        let offset := v.getClusterOffset currentCluster
        let bytesToRead := min v.getBytesPerCluster (size - bytesRead)
        if (offset + bytesToRead).toNat > v.imageData.length then .ok (.leave [] false)
        else if offset.toNat + bytesToRead.toNat ≤ v.imageData.length then do
          let nextCluster ← v.getNextCluster currentCluster
          pure (.again ((v.imageData.drop offset.toNat).take bytesToRead.toNat) (nextCluster, bytesRead + bytesToRead))
        else .error .outsideImage
      else .ok (.leave [] (bytesRead = size))

/-- The bytes that were read, and if they are all of the file. -/
def readFile (fuel : Nat) (fileInfo : FATFileInfo) : Except Stop (List UInt8 × Bool) :=
  if fileInfo.isDirectory then .ok ([], false)
  else run .unfinished (v.fileTurn fileInfo.size) fuel (fileInfo.firstCluster, 0)

end FATParser

end GuideXOS.Storage.FAT
