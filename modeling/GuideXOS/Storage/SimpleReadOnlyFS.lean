import GuideXOS.Core.Text
import GuideXOS.Lib.ByteCodec
import GuideXOS.Storage.BlockDevice

/-!
# `SimpleReadOnlyFS` — a flat read-only file system

An image is a superblock, a table of directory entries and the contents of the files, each from a block of its own. The
writer (`createFilesystem`) and the reader (`mount`, `listDirectory`, `readFile`) compute the layout separately, in
words of 32 and 64 bits that wrap around. The reader takes the superblock into a buffer of 512 bytes whatever the block
size is.
-/

namespace GuideXOS.Storage
open Core Lib Lib.Blocks Lib.Words

/-- Why a call has no result. -/
inductive Stop
  | threw (what : String)
  | undefined
  deriving DecidableEq

/-- A device call as a step of a longer one. -/
def Outcome.result {α : Type _} : Outcome α → Except Stop (Int64 × α)
  | .returned count left => .ok (count, left)
  | .threw what => .error (.threw what)
  | .undefined => .error .undefined

namespace SimpleReadOnlyFS

def MAGIC : Text := text "SROFS1.0"
def VERSION : UInt32 := 1
def SUPERBLOCK_SIZE : Nat := 512
def DIRENT_SIZE : UInt32 := 64
def MAX_FILENAME_LENGTH : Nat := 48

/-! ## The superblock and the directory entries -/

/-- The bytes of a field. -/
def field (buffer : List UInt8) (offset length : Nat) : List UInt8 := (buffer.drop offset).take length

structure Superblock where
  magic : List UInt8 := MAGIC
  version : UInt32 := VERSION
  blockSize : UInt32 := 512
  totalBlocks : UInt64 := 0
  dirBlock : UInt64 := 1
  dirEntries : UInt32 := 0
  reserved1 : UInt32 := 0
  dataBlock : UInt64 := 0
  reserved : List UInt8 := List.replicate 464 0
  deriving DecidableEq

namespace Superblock

def isValid (sb : Superblock) : Bool := sb.magic = MAGIC ∧ sb.version = VERSION

def serialize (sb : Superblock) : List UInt8 :=
  sb.magic ++ (putU32 sb.version ++ (putU32 sb.blockSize ++ (putU64 sb.totalBlocks ++ (putU64 sb.dirBlock ++
    (putU32 sb.dirEntries ++ (putU32 sb.reserved1 ++ (putU64 sb.dataBlock ++ sb.reserved)))))))

def deserialize (buffer : List UInt8) : Superblock where
  magic := field buffer 0 8
  version := (wordOfBytes (field buffer 8 4)).toUInt32
  blockSize := (wordOfBytes (field buffer 12 4)).toUInt32
  totalBlocks := wordOfBytes (field buffer 16 8)
  dirBlock := wordOfBytes (field buffer 24 8)
  dirEntries := (wordOfBytes (field buffer 32 4)).toUInt32
  reserved1 := (wordOfBytes (field buffer 36 4)).toUInt32
  dataBlock := wordOfBytes (field buffer 40 8)
  reserved := field buffer 48 464

end Superblock

structure DirEntry where
  name : List UInt8
  type : UInt8 := 0
  reserved : List UInt8 := List.replicate 3 0
  size : UInt64
  dataBlock : UInt32
  deriving DecidableEq

namespace DirEntry

def serialize (entry : DirEntry) : List UInt8 :=
  entry.name ++ (putU8 entry.type ++ (entry.reserved ++ (putU64 entry.size ++ putU32 entry.dataBlock)))

/-- The last byte of the name is made a terminator. -/
def deserialize (buffer : List UInt8) : DirEntry where
  name := (field buffer 0 MAX_FILENAME_LENGTH).set (MAX_FILENAME_LENGTH - 1) 0
  type := (field buffer 48 1).headD 0
  reserved := field buffer 49 3
  size := wordOfBytes (field buffer 52 8)
  dataBlock := (wordOfBytes (field buffer 60 4)).toUInt32

def getName (entry : DirEntry) : Text := entry.name.takeWhile (· ≠ 0)

/-- **`setName`**: the bytes of the field. -/
def nameField (newName : Text) : List UInt8 := pad MAX_FILENAME_LENGTH (newName.take (MAX_FILENAME_LENGTH - 1))

end DirEntry

/-- The blocks of the directory table, as the writer and the reader both compute them. -/
def directoryBlocks (dirEntries blockSize : UInt32) : UInt32 := (dirEntries * DIRENT_SIZE + blockSize - 1) / blockSize

/-! ## Writing an image -/

/-- The files of an image. -/
abbrev Files := OrdMap Text (List UInt8)

/-- The superblock of an image. The data blocks are computed from the sum of the sizes. -/
def superblockOf (files : Files) (blockSize : UInt32) : Superblock :=
  let dirEntries := UInt32.ofNat files.entries.length
  let dataBlock := 1 + (directoryBlocks dirEntries blockSize).toUInt64
  let dataSize := files.entries.foldl (fun sum file => sum + UInt64.ofNat file.2.length) 0
  let dataBlocks := (dataSize + blockSize.toUInt64 - 1) / blockSize.toUInt64
  { blockSize := blockSize, dirBlock := 1, dirEntries := dirEntries, dataBlock := dataBlock
    totalBlocks := dataBlock + dataBlocks }

/-- The directory entries, and where the data of each file starts. -/
def entriesFrom (blockSize : UInt32) : UInt32 → List (Text × List UInt8) → List DirEntry
  | _, [] => []
  | currentDataBlock, (name, content) :: rest =>
      let fileBlocks := (UInt64.ofNat content.length + blockSize.toUInt64 - 1) / blockSize.toUInt64
      { name := DirEntry.nameField name, size := UInt64.ofNat content.length, dataBlock := currentDataBlock } ::
        entriesFrom blockSize (currentDataBlock + fileBlocks.toUInt32) rest

/-- The blocks of the directory table: as many whole entries as fit in each. -/
def tableBlocks (blockSize : Nat) (entries : List DirEntry) : List (List UInt8) :=
  let perBlock := blockSize / DIRENT_SIZE.toNat
  (List.range (blockCount perBlock entries.length)).map fun i =>
    pad blockSize (((entries.drop (i * perBlock)).take perBlock).flatMap DirEntry.serialize)

variable {δ : Type _} [IStorageDevice δ]

/-- Blocks written one by one from `block` on; `false` where the device does not take one. -/
def writeRun (device : δ) (block : UInt64) : List (List UInt8) → Except Stop (Bool × δ)
  | [] => .ok (true, device)
  | bytes :: rest => do
      let (count, device) ← (IStorageDevice.writeBlocks device block 1 bytes).result
      if count ≠ 1 then .ok (false, device) else writeRun device (block + 1) rest

/-- The contents of the files, found by the names that the entries give. -/
def writeFiles (files : Files) (blockSize : Nat) (device : δ) : List DirEntry → Except Stop (Bool × δ)
  | [] => .ok (true, device)
  | entry :: rest =>
      match files.entries.find? (·.1 = entry.getName) with
      | none => .error (.threw "map::at")
      | some file => do
          let (written, device) ← writeRun device entry.dataBlock.toUInt64 (blocksOf blockSize file.2)
          if written then writeFiles files blockSize device rest else .ok (false, device)

/-- **`createFilesystem`.** A block too small for the superblock is written past its end. -/
def createFilesystem (device : δ) (files : Files) (blockSize : UInt32) : Except Stop (Bool × δ) :=
  if !isConnected device then .ok (false, device)
  else if blockSize.toNat < SUPERBLOCK_SIZE then .error .undefined
  else do
    let sb := superblockOf files blockSize
    let dirEntries := entriesFrom blockSize sb.dataBlock.toUInt32 files.entries
    let (written, device) ← writeRun device 0 [pad blockSize.toNat sb.serialize]
    if !written then .ok (false, device)
    else do
      let (written, device) ← writeRun device sb.dirBlock (tableBlocks blockSize.toNat dirEntries)
      if !written then .ok (false, device) else writeFiles files blockSize.toNat device dirEntries

end SimpleReadOnlyFS

/-! ## Mounting -/

/-- A mounted file system. -/
structure SimpleReadOnlyFS where
  superblock : SimpleReadOnlyFS.Superblock
  directory : List SimpleReadOnlyFS.DirEntry
  deriving DecidableEq

namespace SimpleReadOnlyFS
variable {δ : Type _} [IStorageDevice δ]

/-- **`readSuperblock`** into a buffer of 512 bytes; `none` is an invalid image. -/
def readSuperblock (device : δ) : Except Stop (Option Superblock) := do
  let (count, buffer) ← (IStorageDevice.readBlocks device 0 1 (List.replicate SUPERBLOCK_SIZE 0)).result
  let superblock := Superblock.deserialize buffer
  .ok (if count = 1 ∧ superblock.isValid then some superblock else none)

/-- The entry at `index` in the table, through a bare pointer. -/
def entryAt (dirData : List UInt8) (index : Nat) : Except Stop DirEntry :=
  let offset := (UInt32.ofNat index * DIRENT_SIZE).toNat
  if offset + DIRENT_SIZE.toNat ≤ dirData.length then
    .ok (DirEntry.deserialize (field dirData offset DIRENT_SIZE.toNat))
  else .error .undefined

/-- **`readDirectory`.** Entries without a name are skipped. -/
def readDirectory (device : δ) (superblock : Superblock) : Except Stop (Option (List DirEntry)) :=
  if superblock.blockSize = 0 then .error .undefined
  else do
    let dirBlocks := directoryBlocks superblock.dirEntries superblock.blockSize
    let dirData := List.replicate (dirBlocks * superblock.blockSize).toNat 0
    let (count, dirData) ← (IStorageDevice.readBlocks device superblock.dirBlock dirBlocks.toUInt64 dirData).result
    if count ≠ dirBlocks.toUInt64.toInt64 then .ok none
    else do
      let entries ← (List.range superblock.dirEntries.toNat).mapM (entryAt dirData)
      .ok (some (entries.filter fun entry => entry.name.headD 0 ≠ 0))

/-- **`mount`.** -/
def mount (device : δ) : Except Stop (Option SimpleReadOnlyFS) :=
  if !isConnected device then .ok none
  else do
    match ← readSuperblock device with
    | none => .ok none
    | some superblock =>
        match ← readDirectory device superblock with
        | none => .ok none
        | some directory => .ok (some ⟨superblock, directory⟩)

/-! ## Reading -/

def slash : UInt8 := 0x2F

/-- **`normalizePath`.** -/
def normalizePath (path : Text) : Text :=
  if path = [] ∨ path = [slash] then [slash]
  else
    let rooted := if path.head? = some slash then path else slash :: path
    -- trailing slashes are removed, but not the first one
    rooted.head?.toList ++ (rooted.tail.reverse.dropWhile (· = slash)).reverse

/-- **`findEntry`.** -/
def findEntry (fs : SimpleReadOnlyFS) (path : Text) : Option DirEntry :=
  let normalized := normalizePath path
  let name := if normalized.head? = some slash then normalized.tail else normalized
  if name = [] then none else fs.directory.find? (·.getName = name)

/-- What `listDirectory` tells of a file. -/
structure DirectoryEntry where
  name : Text
  isDirectory : Bool
  size : UInt64
  deriving DecidableEq

/-- **`listDirectory`.** Only the root is a directory. -/
def listDirectory (fs : SimpleReadOnlyFS) (path : Text) : Option (List DirectoryEntry) :=
  if normalizePath path ≠ [slash] then none
  else some ((fs.directory.filter fun entry => entry.name.headD 0 ≠ 0).map fun entry =>
    ⟨entry.getName, entry.type ≠ 0, entry.size⟩)

/-- The loop of `readFile`: `remaining` bytes, from `copyOffset` in the current block on. Every round copies a byte at
    least, so the bytes are fuel enough. -/
def copyBlocks (device : δ) (blockSize : UInt32) : Nat → UInt64 → UInt64 → UInt64 → Except Stop (Option (List UInt8))
  | 0, _, _, _ => .ok (some [])
  | fuel + 1, currentBlock, copyOffset, remaining =>
      if remaining = 0 then .ok (some [])
      else do
        let buffer := List.replicate blockSize.toNat 0
        let (count, blockData) ← (IStorageDevice.readBlocks device currentBlock 1 buffer).result
        if count ≠ 1 then .ok none
        else do
          let copySize := min (blockSize.toUInt64 - copyOffset) remaining
          let rest ← copyBlocks device blockSize fuel (currentBlock + 1) 0 (remaining - copySize)
          .ok (rest.map (field blockData copyOffset.toNat copySize.toNat ++ ·))

/-- **`readFile`** into a buffer of `size` bytes: the count, and the bytes at the front of the buffer. -/
def readFile (device : δ) (fs : SimpleReadOnlyFS) (path : Text) (size offset : UInt64) :
    Except Stop (Int64 × List UInt8) :=
  if size = 0 then .ok (-1, [])
  else
    match findEntry fs path with
    | none => .ok (-1, [])
    | some entry =>
        if entry.type ≠ 0 then .ok (-1, [])
        else if offset ≥ entry.size then .ok (0, [])
        else if fs.superblock.blockSize = 0 then .error .undefined
        else do
          let blockSize := fs.superblock.blockSize
          let bytesToRead := min size (entry.size - offset)
          let startBlock := entry.dataBlock.toUInt64
          match ← copyBlocks device blockSize bytesToRead.toNat (startBlock + offset / blockSize.toUInt64)
              (offset % blockSize.toUInt64) bytesToRead with
          | none => .ok (-1, [])
          | some bytes => .ok (bytesToRead.toInt64, bytes)

end SimpleReadOnlyFS

end GuideXOS.Storage
