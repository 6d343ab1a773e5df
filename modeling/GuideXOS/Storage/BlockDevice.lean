import GuideXOS.Lib.Blocks
import GuideXOS.Storage.MemoryBackedDisk

/-!
# `BlockDevice` — storage devices as stores of blocks

What lies above a storage device reads and writes whole blocks through `IStorageDevice`. `BlockStore` is what it may
rely on: a device is a sequence of blocks, a call in range transfers exactly the blocks it names, and a write changes no
other. The memory-backed virtual block device is such a store.
-/

namespace GuideXOS.Storage
open Lib.Blocks

/-- The part of the interface that file systems use. A buffer is a vector; a write gives the device it leaves. -/
class IStorageDevice (δ : Type _) where
  isConnected : δ → Bool
  readBlocks : δ → UInt64 → UInt64 → List UInt8 → Outcome (List UInt8)
  writeBlocks : δ → UInt64 → UInt64 → List UInt8 → Outcome δ

export IStorageDevice (isConnected)

/-- A device that keeps the blocks it is given. -/
class BlockStore (δ : Type _) [IStorageDevice δ] where
  blockBytes : δ → Nat
  blockCount : δ → Nat
  block : δ → Nat → List UInt8
  length_block : ∀ {d : δ} {k : Nat}, k < blockCount d → (block d k).length = blockBytes d
  readBlocks_zero : ∀ (d : δ) (n : UInt64), IStorageDevice.readBlocks d n 0 [] = .returned (-1) []
  readBlocks_fits : ∀ {d : δ} {n count : UInt64} {buffer : List UInt8}, isConnected d = true → 0 < count.toNat →
    n.toNat + count.toNat ≤ blockCount d → 0 < blockBytes d → count.toNat * blockBytes d ≤ buffer.length →
    IStorageDevice.readBlocks d n count buffer = .returned count.toInt64
      ((List.range' n.toNat count.toNat).flatMap (block d) ++ buffer.drop (count.toNat * blockBytes d))
  readBlocks_overflows : ∀ {d : δ} {n count : UInt64} {buffer : List UInt8}, isConnected d = true → 0 < count.toNat →
    n.toNat + count.toNat ≤ blockCount d → buffer ≠ [] → buffer.length < count.toNat * blockBytes d →
    IStorageDevice.readBlocks d n count buffer = .undefined
  writeBlocks_one : ∀ {d : δ} {n : UInt64} {buffer : List UInt8}, isConnected d = true → n.toNat < blockCount d →
    0 < blockBytes d → buffer.length = blockBytes d →
    ∃ d', IStorageDevice.writeBlocks d n 1 buffer = .returned 1 d' ∧
      ∀ k, block d' k = if k = n.toNat then buffer else block d k
  writeBlocks_keeps : ∀ {d d' : δ} {n count : UInt64} {buffer : List UInt8} {transferred : Int64},
    IStorageDevice.writeBlocks d n count buffer = .returned transferred d' →
    isConnected d' = isConnected d ∧ blockBytes d' = blockBytes d ∧ blockCount d' = blockCount d

/-! ## The memory-backed virtual block device -/

structure VirtualBlockDevice where
  sectorSize : UInt32
  connected : Bool
  memoryBuffer : List UInt8
  length_le : memoryBuffer.length ≤ maxSize

namespace VirtualBlockDevice

variable (device : VirtualBlockDevice)

def sizeBytes : UInt64 := UInt64.ofNat device.memoryBuffer.length

/-- **`validateAccess`.** The sum wraps around. -/
def validateAccess (offset size : UInt64) : Bool := !(offset + size > device.sizeBytes)

/-- **`readSectors`** into a vector; an empty vector has no data to point to. -/
def readSectors (sectorNumber sectorCount : UInt64) (buffer : List UInt8) : Outcome (List UInt8) :=
  if !device.connected ∨ buffer = [] ∨ sectorCount = 0 then .returned (-1) buffer
  else
    let offset := sectorNumber * device.sectorSize.toUInt64
    let size := sectorCount * device.sectorSize.toUInt64
    if !device.validateAccess offset size then .returned (-1) buffer
    else if size.toNat ≤ buffer.length ∧ offset.toNat + size.toNat ≤ device.memoryBuffer.length then
      .returned sectorCount.toInt64
        ((device.memoryBuffer.drop offset.toNat).take size.toNat ++ buffer.drop size.toNat)
    else .undefined

/-- **`writeSectors`** from a vector. -/
def writeSectors (sectorNumber sectorCount : UInt64) (buffer : List UInt8) : Outcome VirtualBlockDevice :=
  if !device.connected ∨ buffer = [] ∨ sectorCount = 0 then .returned (-1) device
  else
    let offset := sectorNumber * device.sectorSize.toUInt64
    let size := sectorCount * device.sectorSize.toUInt64
    let bytes := buffer.take size.toNat
    if !device.validateAccess offset size then .returned (-1) device
    else if h : size.toNat ≤ buffer.length ∧ offset.toNat + bytes.length ≤ device.memoryBuffer.length then
      .returned sectorCount.toInt64
        { device with
          memoryBuffer := device.memoryBuffer.take offset.toNat ++ bytes ++
            device.memoryBuffer.drop (offset.toNat + bytes.length)
          length_le := by
            have := device.length_le
            have := h.2
            simp only [List.length_append, List.length_take, List.length_drop] at this ⊢
            omega }
    else .undefined

end VirtualBlockDevice

instance : IStorageDevice VirtualBlockDevice where
  isConnected device := device.connected
  readBlocks := VirtualBlockDevice.readSectors
  writeBlocks := VirtualBlockDevice.writeSectors

namespace VirtualBlockDevice
variable {device device' : VirtualBlockDevice} {n count : UInt64} {buffer : List UInt8}

def sectorCount (device : VirtualBlockDevice) : Nat := device.memoryBuffer.length / device.sectorSize.toNat

/-- The bytes of `x` sectors, as the code counts them. -/
def bytesOf (device : VirtualBlockDevice) (x : UInt64) : Nat := (x * device.sectorSize.toUInt64).toNat

theorem bytesOf_eq (device : VirtualBlockDevice) (x : UInt64) :
    device.bytesOf x = x.toNat * device.sectorSize.toNat % 2 ^ 64 := by
  rw [bytesOf, UInt64.toNat_mul, UInt32.toNat_toUInt64]

/-- The range check lets a transfer through. -/
abbrev Passes (device : VirtualBlockDevice) (n count : UInt64) : Prop :=
  (n.toNat + count.toNat) * device.sectorSize.toNat % 2 ^ 64 ≤ device.memoryBuffer.length

theorem validateAccess_iff : device.validateAccess (n * device.sectorSize.toUInt64)
      (count * device.sectorSize.toUInt64) = true ↔ device.Passes n count := by
  have hbytes : device.sizeBytes.toNat = device.memoryBuffer.length :=
    UInt64.toNat_ofNat_of_lt' (Nat.lt_of_le_of_lt device.length_le (by decide))
  rw [validateAccess, Bool.not_eq_true', decide_eq_false_iff_not, gt_iff_lt, UInt64.lt_iff_toNat_lt, Nat.not_lt,
    UInt64.toNat_add, hbytes, ← bytesOf, ← bytesOf, bytesOf_eq, bytesOf_eq, ← Nat.add_mod, ← Nat.add_mul, Passes]

/-- A transfer in range does not wrap around. -/
theorem transfer_of_le (h : (n.toNat + count.toNat) * device.sectorSize.toNat ≤ device.memoryBuffer.length) :
    device.bytesOf n = n.toNat * device.sectorSize.toNat ∧ device.bytesOf count = count.toNat * device.sectorSize.toNat ∧
      n.toNat * device.sectorSize.toNat + count.toNat * device.sectorSize.toNat ≤ device.memoryBuffer.length ∧
      device.Passes n count := by
  have hmax : device.memoryBuffer.length < 2 ^ 64 := Nat.lt_of_le_of_lt device.length_le (by decide)
  have hpasses : device.Passes n count := (Nat.mod_le _ _).trans h
  rw [Nat.add_mul] at h
  refine ⟨?_, ?_, h, hpasses⟩
  · rw [bytesOf_eq, Nat.mod_eq_of_lt (by omega)]
  · rw [bytesOf_eq, Nat.mod_eq_of_lt (by omega)]

section
variable (hconnected : device.connected = true) (hbuffer : buffer ≠ []) (hcount : count ≠ 0)
  (hpasses : device.Passes n count)
include hconnected hbuffer hcount

theorem not_stopped : ¬ ((!device.connected) = true ∨ buffer = [] ∨ count = 0) := by
  rw [hconnected]
  rintro (hoff | hnil | hzero)
  · cases hoff
  · exact hbuffer hnil
  · exact hcount hzero

include hpasses

/-- A read that passes the checks. -/
theorem readSectors_valid : device.readSectors n count buffer =
    if device.bytesOf count ≤ buffer.length ∧
        device.bytesOf n + device.bytesOf count ≤ device.memoryBuffer.length then
      .returned count.toInt64 ((device.memoryBuffer.drop (device.bytesOf n)).take (device.bytesOf count) ++
        buffer.drop (device.bytesOf count))
    else .undefined := by
  rw [readSectors, if_neg (not_stopped hconnected hbuffer hcount)]
  dsimp only
  rw [validateAccess_iff.mpr hpasses]
  rfl

/-- A write that passes the checks and whose bytes fit. -/
theorem writeSectors_valid (hfits : device.bytesOf count ≤ buffer.length)
    (hinside : device.bytesOf n + device.bytesOf count ≤ device.memoryBuffer.length) :
    ∃ device', device.writeSectors n count buffer = .returned count.toInt64 device' ∧
      device'.connected = device.connected ∧ device'.sectorSize = device.sectorSize ∧
      device'.memoryBuffer = device.memoryBuffer.take (device.bytesOf n) ++ buffer.take (device.bytesOf count) ++
        device.memoryBuffer.drop (device.bytesOf n + device.bytesOf count) := by
  have htake : (buffer.take (device.bytesOf count)).length = device.bytesOf count := List.length_take_of_le hfits
  rw [writeSectors, if_neg (not_stopped hconnected hbuffer hcount)]
  dsimp only
  rw [validateAccess_iff.mpr hpasses, if_neg (by decide), dif_pos ⟨hfits, htake.symm ▸ hinside⟩]
  refine ⟨_, rfl, rfl, rfl, ?_⟩
  show _ ++ _ ++ device.memoryBuffer.drop (_ + (buffer.take (device.bytesOf count)).length) = _
  rw [htake]
  rfl

end

theorem readSectors_of_le (hconnected : device.connected = true) (hpos : 0 < device.sectorSize.toNat)
    (hcount : 0 < count.toNat) (h : n.toNat + count.toNat ≤ device.sectorCount) (hbuffer : buffer ≠ []) :
    device.readSectors n count buffer =
      if count.toNat * device.sectorSize.toNat ≤ buffer.length then
        .returned count.toInt64 ((List.range' n.toNat count.toNat).flatMap
          (blockIn device.sectorSize.toNat device.memoryBuffer) ++ buffer.drop (count.toNat * device.sectorSize.toNat))
      else .undefined := by
  obtain ⟨hoffset, hsize, hend, hpasses⟩ := transfer_of_le ((Nat.le_div_iff_mul_le hpos).mp h)
  have hzero : count ≠ 0 := fun hzero => by rw [hzero] at hcount; exact absurd hcount (by decide)
  rw [readSectors_valid hconnected hbuffer hzero hpasses, hoffset, hsize, flatMap_blockIn]
  simp only [hend, and_true]

theorem writeSectors_one (hconnected : device.connected = true) (hpos : 0 < device.sectorSize.toNat)
    (h : n.toNat < device.sectorCount) (hbuffer : buffer.length = device.sectorSize.toNat) :
    ∃ device', device.writeSectors n 1 buffer = .returned 1 device' ∧ ∀ k,
      blockIn device'.sectorSize.toNat device'.memoryBuffer k =
        if k = n.toNat then buffer else blockIn device.sectorSize.toNat device.memoryBuffer k := by
  obtain ⟨hoffset, hsize, hend, hpasses⟩ := @transfer_of_le device n 1 ((Nat.le_div_iff_mul_le hpos).mp h)
  rw [UInt64.toNat_one, Nat.one_mul] at hsize hend
  obtain ⟨device', hwrite, -, hsector, hput⟩ := writeSectors_valid hconnected
    (List.ne_nil_of_length_pos (hbuffer ▸ hpos)) (by decide) hpasses (hsize.trans hbuffer.symm).le (by rwa [hoffset, hsize])
  rw [hsize, hoffset, List.take_of_length_le hbuffer.le] at hput
  refine ⟨device', hwrite, fun k => ?_⟩
  have hspliced := blockIn_splice hbuffer hend k
  rw [hbuffer] at hspliced
  rw [hsector, hput, hspliced]

theorem writeSectors_keeps {transferred : Int64}
    (h : device.writeSectors n count buffer = .returned transferred device') :
    device'.connected = device.connected ∧ device'.sectorSize = device.sectorSize ∧
      device'.sectorCount = device.sectorCount := by
  unfold writeSectors at h
  split at h
  · cases h
    exact ⟨rfl, rfl, rfl⟩
  · dsimp only at h
    split at h
    · cases h
      exact ⟨rfl, rfl, rfl⟩
    · split at h
      case isTrue hfits =>
        cases h
        refine ⟨rfl, rfl, ?_⟩
        have := hfits.2
        simp only [sectorCount, List.length_append, List.length_take, List.length_drop] at this ⊢
        congr 1
        omega
      case isFalse => cases h

end VirtualBlockDevice

open VirtualBlockDevice in
instance : BlockStore VirtualBlockDevice where
  blockBytes device := device.sectorSize.toNat
  blockCount := sectorCount
  block device := blockIn device.sectorSize.toNat device.memoryBuffer
  length_block hk := length_blockIn (Nat.mul_le_of_le_div _ _ _ hk)
  readBlocks_zero device n := if_pos (.inr (.inl rfl))
  readBlocks_fits {device n count buffer} hconnected hcount h hpos hfits := by
    have hbuffer : buffer ≠ [] := by
      rintro rfl
      exact absurd hfits (Nat.not_le.mpr (Nat.mul_pos hcount hpos))
    exact (readSectors_of_le hconnected hpos hcount h hbuffer).trans (if_pos hfits)
  readBlocks_overflows {device n count buffer} hconnected hcount h hbuffer hlong := by
    have hpos : 0 < device.sectorSize.toNat := Nat.pos_of_ne_zero fun hzero => by
      rw [hzero, Nat.mul_zero] at hlong
      exact absurd hlong (Nat.not_lt_zero _)
    exact (readSectors_of_le hconnected hpos hcount h hbuffer).trans (if_neg (Nat.not_le.mpr hlong))
  writeBlocks_one hconnected hn hpos hbuffer := writeSectors_one hconnected hpos hn hbuffer
  writeBlocks_keeps h := by
    obtain ⟨hconnected, hsize, hcount⟩ := writeSectors_keeps h
    exact ⟨hconnected, congrArg UInt32.toNat hsize, hcount⟩

/-! ## The disk in memory -/

instance : IStorageDevice MemoryBackedDisk where
  isConnected disk := disk.connected
  readBlocks := MemoryBackedDisk.readBlocks
  writeBlocks := MemoryBackedDisk.writeBlocks

end GuideXOS.Storage

/-!
## The initial ramdisk as a storage device

A read-only device in memory. It refuses what begins behind its end and cuts a read off at its end, where the last
block may be a short one. Offsets and sizes are 64-bit words and wrap around.
-/

namespace GuideXOS.Storage

structure InitramfsDevice where
  blockSize : UInt32
  connected : Bool
  buffer : List UInt8
  length_le : buffer.length ≤ maxSize

namespace InitramfsDevice

variable (device : InitramfsDevice)

def size : UInt64 := UInt64.ofNat device.buffer.length

theorem size_toNat : device.size.toNat = device.buffer.length :=
  UInt64.toNat_ofNat_of_lt' (Nat.lt_of_le_of_lt device.length_le (by decide))

/-- The bytes a read copies and the blocks it counts, once its first byte lies on the device. -/
def clamp (byteOffset byteCount blockCount : UInt64) : UInt64 × UInt64 :=
  if device.size < byteOffset + byteCount then
    let byteCount := device.size - byteOffset
    (byteCount, (byteCount + device.blockSize.toUInt64 - 1) / device.blockSize.toUInt64)
  else (byteCount, blockCount)

/-- **`readBlocks`** into a vector; an empty vector has no data to point to. A block size of zero never gets as far as
the division. -/
def readBlocks (blockNumber blockCount : UInt64) (buffer : List UInt8) : Outcome (List UInt8) :=
  if !device.connected then .returned (-1) buffer
  else if buffer = [] then .returned (-1) buffer
  else
    let byteOffset := blockNumber * device.blockSize.toUInt64
    let byteCount := blockCount * device.blockSize.toUInt64
    if device.size ≤ byteOffset then .returned 0 buffer
    else
      let (byteCount, blockCount) := device.clamp byteOffset byteCount blockCount
      if byteCount.toNat ≤ buffer.length ∧ byteOffset.toNat + byteCount.toNat ≤ device.buffer.length then
        .returned blockCount.toInt64
          ((device.buffer.drop byteOffset.toNat).take byteCount.toNat ++ buffer.drop byteCount.toNat)
      else .undefined

/-- **`writeBlocks`.** The device is read-only. -/
def writeBlocks (_ _ : UInt64) (_ : List UInt8) : Outcome InitramfsDevice :=
  .returned (-1) device

end InitramfsDevice

instance : IStorageDevice InitramfsDevice where
  isConnected device := device.connected
  readBlocks := InitramfsDevice.readBlocks
  writeBlocks := InitramfsDevice.writeBlocks

end GuideXOS.Storage
