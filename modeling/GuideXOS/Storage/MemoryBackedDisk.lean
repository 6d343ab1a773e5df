import Mathlib.Tactic.Ring

/-!
# `MemoryBackedDisk` — a disk in memory, by blocks and by bytes

The disk is read and written in blocks; `readBytes` and `writeBytes` are the interface's own byte access, which
goes through whole blocks in a buffer of its own. Sizes and block numbers are 64-bit words throughout and wrap
around. A copy past the end of a buffer, or a division by a block size of zero, has no outcome the language
defines; a buffer longer than any vector throws.
-/

namespace GuideXOS.Storage

/-- How a call ends: with a count and what it leaves, by an exception, or in undefined behaviour. -/
inductive Outcome (α : Type _)
  | returned (count : Int64) (left : α)
  | threw (what : String)
  | undefined

/-- The longest vector of bytes. -/
def maxSize : Nat := 2 ^ 63 - 1

structure MemoryBackedDisk where
  blockSize : UInt32
  connected : Bool
  buffer : List UInt8
  length_le : buffer.length ≤ maxSize

namespace MemoryBackedDisk

variable (disk : MemoryBackedDisk)

def size : UInt64 := UInt64.ofNat disk.buffer.length

def bytesPerBlock : UInt64 := disk.blockSize.toUInt64

def totalBlocks : UInt64 := disk.size / disk.bytesPerBlock

theorem size_toNat : disk.size.toNat = disk.buffer.length := by
  have hlt : disk.buffer.length < 2 ^ 64 := Nat.lt_of_le_of_lt disk.length_le (by decide)
  exact UInt64.toNat_ofNat_of_lt' hlt

theorem bytesPerBlock_toNat : disk.bytesPerBlock.toNat = disk.blockSize.toNat :=
  UInt32.toNat_toUInt64 _

theorem totalBlocks_toNat : disk.totalBlocks.toNat = disk.buffer.length / disk.blockSize.toNat := by
  rw [totalBlocks, UInt64.toNat_div, size_toNat, bytesPerBlock_toNat]

/-- The validation that reads and writes share: how many blocks are transferred, or `none` for an error. -/
def actualBlockCount (blockNumber blockCount : UInt64) : Option UInt64 :=
  if !disk.connected then none
  else if disk.totalBlocks ≤ blockNumber then none
  else if disk.totalBlocks < blockNumber + blockCount then some (disk.totalBlocks - blockNumber)
  else some blockCount

/-- **`readBlocks`** into a vector; an empty vector has no data to point to. -/
def readBlocks (blockNumber blockCount : UInt64) (buffer : List UInt8) : Outcome (List UInt8) :=
  if buffer = [] then .returned (-1) buffer
  else if disk.connected ∧ disk.blockSize = 0 then .undefined
  else
    match disk.actualBlockCount blockNumber blockCount with
    | none => .returned (-1) buffer
    | some actual =>
        let offset := (blockNumber * disk.bytesPerBlock).toNat
        let readSize := (actual * disk.bytesPerBlock).toNat
        if readSize ≤ buffer.length ∧ offset + readSize ≤ disk.buffer.length then
          .returned actual.toInt64 ((disk.buffer.drop offset).take readSize ++ buffer.drop readSize)
        else .undefined

/-- The disk with bytes replaced from an offset on. -/
def overwrite (offset : Nat) (bytes : List UInt8) (h : offset + bytes.length ≤ disk.buffer.length) : MemoryBackedDisk :=
  { disk with
    buffer := disk.buffer.take offset ++ bytes ++ disk.buffer.drop (offset + bytes.length)
    length_le := by
      have := disk.length_le
      simp only [List.length_append, List.length_take, List.length_drop]
      omega }

/-- **`writeBlocks`** from a vector. -/
def writeBlocks (blockNumber blockCount : UInt64) (buffer : List UInt8) : Outcome MemoryBackedDisk :=
  if buffer = [] then .returned (-1) disk
  else if disk.connected ∧ disk.blockSize = 0 then .undefined
  else
    match disk.actualBlockCount blockNumber blockCount with
    | none => .returned (-1) disk
    | some actual =>
        let offset := (blockNumber * disk.bytesPerBlock).toNat
        let bytes := buffer.take (actual * disk.bytesPerBlock).toNat
        if h : (actual * disk.bytesPerBlock).toNat ≤ buffer.length ∧ offset + bytes.length ≤ disk.buffer.length then
          .returned actual.toInt64 (disk.overwrite offset bytes h.2)
        else .undefined

/-- A block size of zero is divided by as soon as the disk is connected. -/
theorem not_divides_zero {disk : MemoryBackedDisk} (h : disk.blockSize ≠ 0) :
    ¬ (disk.connected = true ∧ disk.blockSize = 0) := fun hzero => h hzero.2

/-! ## Byte access -/

def startBlock (offset : UInt64) : UInt64 := offset / disk.bytesPerBlock

def numBlocks (offset size : UInt64) : UInt64 :=
  let endBlock := (offset + size - 1) / disk.bytesPerBlock
  endBlock - disk.startBlock offset + 1

/-- The length of the block buffer. -/
def span (offset size : UInt64) : Nat :=
  (disk.numBlocks offset size * disk.bytesPerBlock).toNat

def lengthError : String := "cannot create std::vector larger than max_size()"

/-- **`IStorageDevice::readBytes`.** What is left is what was copied to the caller's buffer. -/
def readBytes (offset size : UInt64) : Outcome (List UInt8) :=
  if size = 0 then .returned 0 []
  else if disk.blockSize = 0 then .undefined
  else if maxSize < disk.span offset size then .threw lengthError
  else
    match disk.readBlocks (disk.startBlock offset) (disk.numBlocks offset size)
        (List.replicate (disk.span offset size) 0) with
    | .threw what => .threw what
    | .undefined => .undefined
    | .returned blocksRead blockBuffer =>
        if blocksRead ≤ 0 then .returned (-1) []
        else
          let blockOffset := offset % disk.bytesPerBlock
          let bytesToCopy := min size (blocksRead.toUInt64 * disk.bytesPerBlock - blockOffset)
          if blockOffset.toNat + bytesToCopy.toNat ≤ blockBuffer.length then
            .returned bytesToCopy.toInt64 ((blockBuffer.drop blockOffset.toNat).take bytesToCopy.toNat)
          else .undefined

/-- A caller's buffer. -/
structure Source where
  bytes : List UInt8
  length_lt : bytes.length < 2 ^ 64

namespace Source

def size (source : Source) : UInt64 := UInt64.ofNat source.bytes.length

theorem size_toNat (source : Source) : source.size.toNat = source.bytes.length :=
  UInt64.toNat_ofNat_of_lt' source.length_lt

end Source

/-- The read of the blocks that a write covers in part; `none` where the write goes on without it. -/
def readPartial (offset size : UInt64) : Outcome (List UInt8) :=
  let partialFirst := offset % disk.bytesPerBlock ≠ 0
  let partialLast := (offset + size) % disk.bytesPerBlock ≠ 0
  let blockBuffer := List.replicate (disk.span offset size) 0
  if partialFirst ∨ partialLast then disk.readBlocks (disk.startBlock offset) (disk.numBlocks offset size) blockBuffer
  else .returned 1 blockBuffer

/-- **`IStorageDevice::writeBytes`.** -/
def writeBytes (offset : UInt64) (source : Source) : Outcome MemoryBackedDisk :=
  if source.size = 0 then .returned 0 disk
  else if disk.blockSize = 0 then .undefined
  else if maxSize < disk.span offset source.size then .threw lengthError
  else
    match disk.readPartial offset source.size with
    | .threw what => .threw what
    | .undefined => .undefined
    | .returned blocksRead blockBuffer =>
        if blocksRead ≤ 0 then .returned (-1) disk
        else
          let blockOffset := (offset % disk.bytesPerBlock).toNat
          if blockOffset + source.bytes.length ≤ blockBuffer.length then
            let merged := blockBuffer.take blockOffset ++ source.bytes ++
              blockBuffer.drop (blockOffset + source.bytes.length)
            match disk.writeBlocks (disk.startBlock offset) (disk.numBlocks offset source.size) merged with
            | .threw what => .threw what
            | .undefined => .undefined
            | .returned blocksWritten disk' =>
                if blocksWritten ≤ 0 then .returned (-1) disk' else .returned source.size.toInt64 disk'
          else .undefined

end MemoryBackedDisk

end GuideXOS.Storage
