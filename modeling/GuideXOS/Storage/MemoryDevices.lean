import Mathlib.Data.UInt
import GuideXOS.Storage.BlockTransfers

/-!
# `MemoryDevices` — when the devices in memory are exact arrays

For each device the requests that it serves exactly, for every block number and count (`Meets`). Where a product or a
sum wraps around, the virtual block device and the ramdisk take the request for another one, and the disk cuts off what
it should refuse or copies from behind its store.
-/

namespace GuideXOS.Storage
open Lib.Blocks

/-! ## The memory-backed virtual block device -/

instance : ByteStore VirtualBlockDevice where
  shape device := ⟨device.connected, device.sectorSize.toNat, device.memoryBuffer.length⟩
  contents device := device.memoryBuffer
  length_contents _ := rfl

namespace VirtualBlockDevice

/-- Where the range check lets a request through, the range is one of numbers and lies on the device; or there are no
bytes to copy and the count is one the result cannot hold. -/
def Meets (s : Shape) (n count : UInt64) : Prop :=
  s.connected = true → count ≠ 0 → (n.toNat + count.toNat) * s.blockSize % 2 ^ 64 ≤ s.size →
    (count.toNat * s.blockSize % 2 ^ 64 = 0 ∧ 2 ^ 63 ≤ count.toNat) ∨
      (n.toNat + count.toNat < 2 ^ 64 ∧ n.toNat * s.blockSize < s.size ∧
        (n.toNat + count.toNat) * s.blockSize ≤ s.size)

section
variable {device : VirtualBlockDevice} {n count : UInt64} {buffer : List UInt8}

/-- A request that the checks refuse. -/
theorem refused (h : device.connected = true → buffer ≠ [] → count ≠ 0 → ¬ device.Passes n count) :
    device.readSectors n count buffer = .returned (-1) buffer ∧
      device.writeSectors n count buffer = .returned (-1) device := by
  by_cases hstop : (!device.connected) = true ∨ buffer = [] ∨ count = 0
  · exact ⟨if_pos hstop, if_pos hstop⟩
  · have hinvalid : device.validateAccess (n * device.sectorSize.toUInt64)
        (count * device.sectorSize.toUInt64) = false := by
      rw [not_or, not_or] at hstop
      rw [← Bool.not_eq_true, validateAccess_iff]
      exact h (by simpa using hstop.1) hstop.2.1 hstop.2.2
    rw [readSectors, writeSectors, if_neg hstop, if_neg hstop]
    dsimp only
    rw [hinvalid]
    exact ⟨rfl, rfl⟩

section
variable (hconnected : device.connected = true) (hbuffer : buffer ≠ []) (hcount : count ≠ 0)
include hconnected hbuffer hcount

/-- Nothing is copied, and the count comes out as an error. -/
theorem exact_of_nothing (hpasses : device.Passes n count) (hnone : device.bytesOf count = 0)
    (hlarge : 2 ^ 63 ≤ count.toNat) : ReadsExactly device n count buffer ∧ WritesExactly device n count buffer := by
  have hresult : transferred count.toInt64 = 0 := by
    rw [transferred_toInt64, if_neg (Nat.not_lt.mpr hlarge)]
  have hinside : device.bytesOf n + 0 ≤ device.memoryBuffer.length := by
    have hend := hpasses
    rw [Passes, Nat.add_mul, Nat.add_mod, ← bytesOf_eq, ← bytesOf_eq, hnone, bytesOf_eq, Nat.add_zero, Nat.mod_mod] at hend
    rwa [bytesOf_eq]
  constructor
  · refine .of_refused ?_ hresult
    refine (readSectors_valid hconnected hbuffer hcount hpasses).trans ?_
    rw [hnone, if_pos ⟨Nat.zero_le _, hinside⟩]
    rfl
  · obtain ⟨device', hwrite, hsame, hsector, hput⟩ := writeSectors_valid hconnected hbuffer hcount hpasses
      (by rw [hnone]; exact Nat.zero_le _) (by rwa [hnone])
    rw [hnone, List.take_zero, List.append_nil, Nat.add_zero, List.take_append_drop] at hput
    have hdevice : device' = device := by
      cases device'
      cases device
      cases hsame
      cases hsector
      cases hput
      rfl
    exact .of_refused (hdevice ▸ hwrite) hresult

/-- A range of numbers that lies on the device. -/
theorem exact_of_inside (hholds : Holds device count buffer) (hsmall : count.toNat < 2 ^ 63)
    (hrange : n.toNat + count.toNat < 2 ^ 64)
    (hfirst : n.toNat * device.sectorSize.toNat < device.memoryBuffer.length)
    (hlast : (n.toNat + count.toNat) * device.sectorSize.toNat ≤ device.memoryBuffer.length) :
    ReadsExactly device n count buffer ∧ WritesExactly device n count buffer := by
  have hmax := device.length_le
  rw [maxSize] at hmax
  have hresult : transferred count.toInt64 = count.toNat := by
    rw [transferred_toInt64, if_pos hsmall]
  obtain ⟨hoffset, hsize, hend, hpasses⟩ := transfer_of_le hlast
  have hread := readSectors_valid hconnected hbuffer hcount hpasses
  have hwrite := writeSectors_valid hconnected hbuffer hcount hpasses
  rw [hoffset, hsize] at hread hwrite
  rw [if_pos ⟨hholds, hend⟩] at hread
  have hallowed : ¬ MustRefuse (shape device).blockSize (shape device).size n.toNat count.toNat :=
    not_mustRefuse_iff.mpr ⟨hrange, Nat.lt_of_le_of_lt (Nat.le_trans (Nat.le_add_left _ _) hend) (by omega), hfirst⟩
  have hanswers := answers_of_le (le_refl count.toNat) hallowed hlast
  constructor
  · refine .of_copied hread hresult rfl ?_ hanswers
    exact (Nat.min_eq_left (Nat.le_sub_of_add_le' hend)).symm
  · obtain ⟨device', hreturned, hsame, hsector, hput⟩ := hwrite hholds hend
    have hshape : shape device' = shape device := by
      show (⟨_, _, _⟩ : Shape) = ⟨_, _, _⟩
      rw [hsame, hsector, hput, length_put hend hholds]
    exact .of_put hreturned hresult hshape hput hend hholds hanswers

end

/-- A request in range is served. -/
theorem exact_of_meets (h : Meets (shape device) n count) : Exact device n count := by
  intro buffer hholds
  by_cases hchecks : device.connected = true ∧ buffer ≠ [] ∧ count ≠ 0 ∧ device.Passes n count
  swap
  · have hrefused := @refused device n count buffer fun hconnected hbuffer hcount hpasses =>
      hchecks ⟨hconnected, hbuffer, hcount, hpasses⟩
    exact ⟨.of_refused hrefused.1 rfl, .of_refused hrefused.2 rfl⟩
  obtain ⟨hconnected, hbuffer, hcount, hvalid⟩ := hchecks
  rcases h hconnected hcount hvalid with ⟨hnone, hlarge⟩ | ⟨hrange, hfirst, hlast⟩
  · exact exact_of_nothing hconnected hbuffer hcount hvalid ((device.bytesOf_eq count).trans hnone) hlarge
  by_cases hsmall : count.toNat < 2 ^ 63
  · exact exact_of_inside hconnected hbuffer hcount hholds hsmall hrange hfirst hlast
  · -- such a count fits only where blocks have no bytes
    have hmax := device.length_le
    rw [maxSize] at hmax
    have hlast' : (n.toNat + count.toNat) * device.sectorSize.toNat ≤ device.memoryBuffer.length := hlast
    have hzero : device.sectorSize.toNat = 0 := by
      by_contra hpos
      have : n.toNat + count.toNat ≤ (n.toNat + count.toNat) * device.sectorSize.toNat :=
        Nat.le_mul_of_pos_right _ (Nat.pos_of_ne_zero hpos)
      omega
    refine exact_of_nothing hconnected hbuffer hcount hvalid ?_ (Nat.not_lt.mp hsmall)
    rw [bytesOf_eq, hzero, Nat.mul_zero, Nat.zero_mod]

/-- A request that is served is in range. -/
theorem meets_of_exact (h : Exact device n count) : Meets (shape device) n count := by
  intro hconnected hcount hpasses
  have hmax := device.length_le
  rw [maxSize] at hmax
  obtain ⟨hinside, ⟨hzero, hnone⟩ | ⟨hrange, hsize, hfirst⟩⟩ := h.copied ((device.bytesOf_eq count).trans_le (Nat.mod_le _ _))
    fun x => readSectors_valid hconnected (canvas_ne_nil device count x) hcount hpasses
  · refine .inl ⟨(device.bytesOf_eq count).symm.trans hnone, ?_⟩
    have hpos : 0 < count.toNat := Nat.pos_of_ne_zero fun heq => hcount (UInt64.toNat_inj.mp heq)
    rw [transferred_toInt64] at hzero
    by_contra hsmall
    rw [if_pos (Nat.not_le.mp hsmall)] at hzero
    omega
  · have hfirst' : n.toNat * device.sectorSize.toNat < device.memoryBuffer.length := hfirst
    have hsize' : count.toNat * device.sectorSize.toNat < 2 ^ 64 := hsize
    rw [bytesOf_eq, bytesOf_eq, Nat.mod_eq_of_lt hsize', Nat.mod_eq_of_lt (by omega), ← Nat.add_mul] at hinside
    exact .inr ⟨hrange, hfirst, hinside⟩

end

end VirtualBlockDevice

/-! ## The disk in memory -/

instance : ByteStore MemoryBackedDisk where
  shape disk := ⟨disk.connected, disk.blockSize.toNat, disk.buffer.length⟩
  contents disk := disk.buffer
  length_contents _ := rfl

namespace MemoryBackedDisk

/-- There are blocks at all, and where the first one is on the disk neither the range nor its length wraps around. -/
def Meets (s : Shape) (n count : UInt64) : Prop :=
  s.connected = true → s.blockSize ≠ 0 ∧ (n.toNat < s.size / s.blockSize →
    n.toNat + count.toNat < 2 ^ 64 ∧ count.toNat * s.blockSize < 2 ^ 64)

section
variable {disk : MemoryBackedDisk} {n count : UInt64} {buffer : List UInt8}

theorem mul_bytesPerBlock_toNat (disk : MemoryBackedDisk) (x : UInt64) :
    (x * disk.bytesPerBlock).toNat = x.toNat * disk.blockSize.toNat % 2 ^ 64 := by
  rw [UInt64.toNat_mul, bytesPerBlock_toNat]

/-- The validation, where the first block is on the disk. -/
theorem actualBlockCount_first (hconnected : disk.connected = true)
    (hfirst : n.toNat < disk.buffer.length / disk.blockSize.toNat) :
    disk.actualBlockCount n count =
      if disk.buffer.length / disk.blockSize.toNat < (n.toNat + count.toNat) % 2 ^ 64 then
        some (disk.totalBlocks - n)
      else some count := by
  have hbegin : ¬ disk.totalBlocks ≤ n := by
    rw [UInt64.le_iff_toNat_le, totalBlocks_toNat]
    exact Nat.not_le.mpr hfirst
  rw [actualBlockCount, hconnected, if_neg (by decide), if_neg hbegin]
  simp only [UInt64.lt_iff_toNat_lt, totalBlocks_toNat, UInt64.toNat_add]

/-- A range of numbers is cut off at the end of the disk. -/
theorem actualBlockCount_range (hconnected : disk.connected = true)
    (hfirst : n.toNat < disk.buffer.length / disk.blockSize.toNat) (hrange : n.toNat + count.toNat < 2 ^ 64) :
    ∃ actual, disk.actualBlockCount n count = some actual ∧
      actual.toNat = min count.toNat (disk.buffer.length / disk.blockSize.toNat - n.toNat) := by
  rw [actualBlockCount_first hconnected hfirst, Nat.mod_eq_of_lt hrange]
  split
  · refine ⟨_, rfl, ?_⟩
    have hle : n ≤ disk.totalBlocks := by
      rw [UInt64.le_iff_toNat_le, totalBlocks_toNat]
      exact hfirst.le
    rw [UInt64.toNat_sub_of_le _ _ hle, totalBlocks_toNat]
    omega
  · refine ⟨_, rfl, ?_⟩
    omega

/-- The bytes of a range that wraps around do not fit behind its first block. -/
theorem wrapped_bytes {n count b size : Nat} (hcount : count < 2 ^ 64) (hrange : 2 ^ 64 ≤ n + count)
    (hfirst : n * b ≤ size) (hb : 0 < b) (hsize : size < 2 ^ 63) : size < count * b % 2 ^ 64 := by
  obtain ⟨m, hm⟩ : ∃ m, count + m = 2 ^ 64 := ⟨2 ^ 64 - count, by omega⟩
  have hmn : m * b ≤ n * b := Nat.mul_le_mul_right b (by omega)
  have hmpos : 0 < m * b := Nat.mul_pos (by omega) hb
  obtain ⟨c, rfl⟩ : ∃ c, b = c + 1 := Nat.exists_eq_add_of_le' hb
  have hproduct : count * (c + 1) = (2 ^ 64 - m * (c + 1)) + c * 2 ^ 64 := by
    have : (count + m) * (c + 1) = 2 ^ 64 * (c + 1) := by rw [hm]
    rw [Nat.add_mul] at this
    omega
  rw [hproduct, Nat.add_mul_mod_self_right, Nat.mod_eq_of_lt (by omega)]
  omega

/-- The first block is on the disk. -/
theorem first_lt (hfirst : n.toNat < disk.buffer.length / disk.blockSize.toNat) :
    n.toNat * disk.blockSize.toNat < disk.buffer.length := by
  have hpos : 0 < disk.blockSize.toNat := Nat.pos_of_ne_zero fun hzero => by
    rw [hzero, Nat.div_zero] at hfirst
    exact absurd hfirst (Nat.not_lt_zero _)
  have hnext : (n.toNat + 1) * disk.blockSize.toNat ≤ disk.buffer.length := Nat.mul_le_of_le_div _ _ _ hfirst
  rw [Nat.succ_mul] at hnext
  omega

/-- Reads and writes of a request that passes the validation. -/
theorem transfers_valid {actual : UInt64} (hbuffer : buffer ≠ []) (hblock : disk.blockSize ≠ 0)
    (hactual : disk.actualBlockCount n count = some actual)
    (hfits : actual.toNat * disk.blockSize.toNat ≤ buffer.length)
    (hinside : n.toNat * disk.blockSize.toNat + actual.toNat * disk.blockSize.toNat ≤ disk.buffer.length) :
    disk.readBlocks n count buffer = .returned actual.toInt64
        ((disk.buffer.drop (n.toNat * disk.blockSize.toNat)).take (actual.toNat * disk.blockSize.toNat) ++
          buffer.drop (actual.toNat * disk.blockSize.toNat)) ∧
      ∃ disk', disk.writeBlocks n count buffer = .returned actual.toInt64 disk' ∧ shape disk' = shape disk ∧
        contents disk' = disk.buffer.take (n.toNat * disk.blockSize.toNat) ++
          buffer.take (actual.toNat * disk.blockSize.toNat) ++
          disk.buffer.drop (n.toNat * disk.blockSize.toNat + actual.toNat * disk.blockSize.toNat) := by
  have hoffset : (n * disk.bytesPerBlock).toNat = n.toNat * disk.blockSize.toNat := blocks_toNat (by omega)
  have hsize : (actual * disk.bytesPerBlock).toNat = actual.toNat * disk.blockSize.toNat := blocks_toNat (by omega)
  refine ⟨(readBlocks_of_actual hbuffer hblock hactual hoffset hsize).trans (if_pos ⟨hfits, hinside⟩), ?_⟩
  obtain ⟨disk', hwrite, hblockSize, hconnected, hput⟩ :=
    writeBlocks_of_actual hbuffer hblock hactual hoffset hsize hfits hinside
  refine ⟨disk', hwrite, ?_, hput⟩
  show (⟨_, _, _⟩ : Shape) = ⟨_, _, _⟩
  rw [hblockSize, hconnected, hput, length_put hinside hfits]

/-- A request that is refused. -/
theorem refused (hblock : disk.connected = true → disk.blockSize ≠ 0)
    (h : disk.connected = true → buffer ≠ [] → disk.buffer.length / disk.blockSize.toNat ≤ n.toNat) :
    disk.readBlocks n count buffer = .returned (-1) buffer ∧
      disk.writeBlocks n count buffer = .returned (-1) disk := by
  by_cases hbuffer : buffer = []
  · exact ⟨if_pos hbuffer, if_pos hbuffer⟩
  have hnone : disk.actualBlockCount n count = none := by
    rw [actualBlockCount]
    split
    · rfl
    case isFalse hon =>
      have hconnected : disk.connected = true := by simpa using hon
      refine if_pos ?_
      rw [UInt64.le_iff_toNat_le, totalBlocks_toNat]
      exact h hconnected hbuffer
  have hdivides : ¬ (disk.connected = true ∧ disk.blockSize = 0) := fun hzero => hblock hzero.1 hzero.2
  constructor
  · rw [readBlocks, if_neg hbuffer, if_neg hdivides, hnone]
  · rw [writeBlocks, if_neg hbuffer, if_neg hdivides, hnone]

theorem exact_of_meets (h : Meets (shape disk) n count) : Exact disk n count := by
  intro buffer hholds
  have hblock : disk.connected = true → disk.blockSize ≠ 0 := fun hconnected hzero =>
    (h hconnected).1 (congrArg UInt32.toNat hzero)
  by_cases hchecks : disk.connected = true ∧ buffer ≠ [] ∧ n.toNat < disk.buffer.length / disk.blockSize.toNat
  swap
  · have hrefused := @refused disk n count buffer hblock fun hconnected hbuffer =>
      Nat.not_lt.mp fun hfirst => hchecks ⟨hconnected, hbuffer, hfirst⟩
    exact ⟨.of_refused hrefused.1 rfl, .of_refused hrefused.2 rfl⟩
  obtain ⟨hconnected, hbuffer, hfirst⟩ := hchecks
  obtain ⟨hrange, hsize⟩ := (h hconnected).2 hfirst
  obtain ⟨actual, hactual, hcut⟩ := actualBlockCount_range hconnected hfirst hrange
  have hmax := disk.length_le
  rw [maxSize] at hmax
  have hle : actual.toNat ≤ count.toNat := by omega
  have hend : (n.toNat + actual.toNat) * disk.blockSize.toNat ≤ disk.buffer.length :=
    Nat.mul_le_of_le_div _ _ _ (by omega)
  have hfits : actual.toNat * disk.blockSize.toNat ≤ buffer.length :=
    (Nat.mul_le_mul_right _ hle).trans hholds
  have hanswers := answers_of_le (b := disk.blockSize.toNat) hle (not_mustRefuse_iff.mpr ⟨hrange, hsize, first_lt hfirst⟩) hend
  have hresult : transferred actual.toInt64 = actual.toNat := by
    have hblocks : disk.buffer.length / disk.blockSize.toNat ≤ disk.buffer.length := Nat.div_le_self _ _
    rw [transferred_toInt64, if_pos (by omega)]
  rw [Nat.add_mul] at hend
  obtain ⟨hread, disk', hwrite, hshape, hcontents⟩ :=
    transfers_valid hbuffer (hblock hconnected) hactual hfits hend
  constructor
  · refine .of_copied hread hresult rfl ?_ hanswers
    exact (Nat.min_eq_left (Nat.le_sub_of_add_le' hend)).symm
  · exact .of_put hwrite hresult hshape hcontents hend hfits hanswers

theorem meets_of_exact (h : Exact disk n count) : Meets (shape disk) n count := by
  intro hconnected
  have hmax := disk.length_le
  rw [maxSize] at hmax
  have hblock : disk.blockSize ≠ 0 := by
    intro hzero
    refine h.not_undefined 0 ?_
    show disk.readBlocks n count _ = _
    rw [readBlocks, if_neg (canvas_ne_nil disk count 0), if_pos ⟨hconnected, hzero⟩]
  have hpos := blockSize_pos hblock
  refine ⟨Nat.ne_of_gt hpos, fun hfirst => ?_⟩
  have hfirst' : n.toNat < disk.buffer.length / disk.blockSize.toNat := hfirst
  by_cases hrange : n.toNat + count.toNat < 2 ^ 64
  · refine ⟨hrange, ?_⟩
    obtain ⟨actual, hactual, hcut⟩ := actualBlockCount_range hconnected hfirst' hrange
    have hend : (n.toNat + actual.toNat) * disk.blockSize.toNat ≤ disk.buffer.length :=
      Nat.mul_le_of_le_div _ _ _ (by omega)
    rw [Nat.add_mul] at hend
    obtain ⟨-, ⟨-, hnone⟩ | ⟨-, hsize, -⟩⟩ := h.copied (Nat.mul_le_mul_right _ (by omega)) fun x =>
      readBlocks_of_actual (canvas_ne_nil disk count x) hblock hactual (blocks_toNat (by omega)) (blocks_toNat (by omega))
    · -- no blocks are copied only where none are asked for
      have hzero : actual.toNat = 0 := (Nat.mul_eq_zero.mp hnone).resolve_right (Nat.ne_of_gt hpos)
      have hcount : count.toNat = 0 := by
        omega
      rw [hcount, Nat.zero_mul]
      decide
    · exact hsize
  · -- the sum wraps around, so nothing is cut off and the copy leaves the disk
    have hblocks : disk.buffer.length / disk.blockSize.toNat ≤ disk.buffer.length := Nat.div_le_self _ _
    have hactual : disk.actualBlockCount n count = some count := by
      rw [actualBlockCount_first hconnected hfirst', if_neg]
      have := n.toNat_lt
      have := count.toNat_lt
      omega
    have hlong := wrapped_bytes count.toNat_lt (Nat.not_lt.mp hrange) (first_lt hfirst').le hpos (by omega)
    obtain ⟨hinside, -⟩ := h.copied (Nat.mod_le _ _) fun x => readBlocks_of_actual (canvas_ne_nil disk count x) hblock
      hactual (disk.mul_bytesPerBlock_toNat n) (disk.mul_bytesPerBlock_toNat count)
    exact absurd (Nat.le_trans (Nat.le_add_left _ _) hinside) (Nat.not_le.mpr hlong)

end

end MemoryBackedDisk

/-! ## The initial ramdisk -/

instance : ByteStore InitramfsDevice where
  shape device := ⟨device.connected, device.blockSize.toNat, device.buffer.length⟩
  contents device := device.buffer
  length_contents _ := rfl

namespace InitramfsDevice

/-- Where the first byte is taken to lie on the device, the range is one of numbers; or there are no bytes to copy and
the count is zero or one the result cannot hold. -/
def Meets (s : Shape) (n count : UInt64) : Prop :=
  s.connected = true → n.toNat * s.blockSize % 2 ^ 64 < s.size →
    (count.toNat * s.blockSize % 2 ^ 64 = 0 ∧ (count = 0 ∨ 2 ^ 63 ≤ count.toNat)) ∨
      (n.toNat + count.toNat < 2 ^ 64 ∧ (n.toNat + count.toNat) * s.blockSize < 2 ^ 64)

section
variable {device : InitramfsDevice} {n count : UInt64} {buffer : List UInt8}

/-- The bytes of `x` blocks, as the code counts them. -/
def bytesOf (device : InitramfsDevice) (x : UInt64) : Nat := (x * device.blockSize.toUInt64).toNat

theorem bytesOf_eq (device : InitramfsDevice) (x : UInt64) :
    device.bytesOf x = x.toNat * device.blockSize.toNat % 2 ^ 64 := by
  rw [bytesOf, UInt64.toNat_mul, UInt32.toNat_toUInt64]

/-- Where a request ends, as the code adds it up. -/
def endOf (device : InitramfsDevice) (n count : UInt64) : Nat :=
  (n * device.blockSize.toUInt64 + count * device.blockSize.toUInt64).toNat

theorem endOf_eq (device : InitramfsDevice) (n count : UInt64) :
    device.endOf n count = (n.toNat + count.toNat) * device.blockSize.toNat % 2 ^ 64 := by
  rw [endOf, UInt64.toNat_add, ← bytesOf, ← bytesOf, bytesOf_eq, bytesOf_eq, ← Nat.add_mod, ← Nat.add_mul]

theorem size_le_iff : device.size ≤ n * device.blockSize.toUInt64 ↔ device.buffer.length ≤ device.bytesOf n := by
  rw [UInt64.le_iff_toNat_le, size_toNat, bytesOf]

theorem size_lt_iff : device.size < n * device.blockSize.toUInt64 + count * device.blockSize.toUInt64 ↔
    device.buffer.length < device.endOf n count := by
  rw [UInt64.lt_iff_toNat_lt, size_toNat, endOf]

/-- A read that begins on the device. -/
theorem readBlocks_begun (hconnected : device.connected = true) (hbuffer : buffer ≠ [])
    (hfirst : device.bytesOf n < device.buffer.length) {byteCount blockCount : UInt64}
    (hclamp : device.clamp (n * device.blockSize.toUInt64) (count * device.blockSize.toUInt64) count =
      (byteCount, blockCount)) :
    device.readBlocks n count buffer =
      if byteCount.toNat ≤ buffer.length ∧ device.bytesOf n + byteCount.toNat ≤ device.buffer.length then
        .returned blockCount.toInt64
          ((device.buffer.drop (device.bytesOf n)).take byteCount.toNat ++ buffer.drop byteCount.toNat)
      else .undefined := by
  rw [readBlocks, hconnected, if_neg (by decide), if_neg hbuffer]
  dsimp only
  rw [if_neg (mt size_le_iff.mp (Nat.not_le.mpr hfirst)), hclamp]
  rfl

/-- A range that ends on the device, as the code adds it up. -/
theorem clamp_inside (h : device.endOf n count ≤ device.buffer.length) :
    device.clamp (n * device.blockSize.toUInt64) (count * device.blockSize.toUInt64) count =
      (count * device.blockSize.toUInt64, count) :=
  if_neg (mt size_lt_iff.mp (Nat.not_lt.mpr h))

/-- A range that is cut off at the end of the device. -/
theorem clamp_beyond (hfirst : device.bytesOf n < device.buffer.length)
    (h : device.buffer.length < device.endOf n count) :
    ∃ byteCount blockCount, device.clamp (n * device.blockSize.toUInt64) (count * device.blockSize.toUInt64) count =
        (byteCount, blockCount) ∧ byteCount.toNat = device.buffer.length - device.bytesOf n ∧
      blockCount.toNat =
        Lib.Blocks.blockCount device.blockSize.toNat (device.buffer.length - device.bytesOf n) := by
  have hmax := device.length_le
  rw [maxSize] at hmax
  have hb := device.blockSize.toNat_lt
  have hbyte : (device.size - n * device.blockSize.toUInt64).toNat = device.buffer.length - device.bytesOf n := by
    have hle : n * device.blockSize.toUInt64 ≤ device.size :=
      UInt64.le_of_lt (UInt64.not_le.mp (mt size_le_iff.mp (Nat.not_le.mpr hfirst)))
    rw [UInt64.toNat_sub_of_le _ _ hle, size_toNat, bytesOf]
  refine ⟨device.size - n * device.blockSize.toUInt64,
    (device.size - n * device.blockSize.toUInt64 + device.blockSize.toUInt64 - 1) / device.blockSize.toUInt64,
    if_pos (size_lt_iff.mpr h), hbyte, ?_⟩
  rw [UInt64.toNat_div, UInt64.toNat_sub, UInt64.toNat_add, hbyte, UInt32.toNat_toUInt64, UInt64.toNat_one,
    Lib.Blocks.blockCount]
  congr 1
  omega

/-- A request that is not begun. -/
theorem refused (h : device.connected = true → buffer ≠ [] → device.buffer.length ≤ device.bytesOf n) :
    ∃ result, device.readBlocks n count buffer = .returned result buffer ∧ transferred result = 0 := by
  by_cases hconnected : device.connected = true
  swap
  · exact ⟨-1, if_pos (by simpa using hconnected), rfl⟩
  by_cases hbuffer : buffer = []
  · refine ⟨-1, ?_, rfl⟩
    rw [readBlocks, hconnected, if_neg (by decide), if_pos hbuffer]
  · refine ⟨0, ?_, rfl⟩
    rw [readBlocks, hconnected, if_neg (by decide), if_neg hbuffer]
    exact if_pos (size_le_iff.mpr (h hconnected hbuffer))

/-- The first block that is cut off, and how many there are. -/
theorem blockCount_facts {b size offset n count : Nat} (hoffset : offset = n * b) (hfirst : offset < size)
    (h : size < (n + count) * b) :
    Lib.Blocks.blockCount b (size - offset) ≤ count ∧
      size - offset ≤ Lib.Blocks.blockCount b (size - offset) * b ∧
      (∀ i, n ≤ i → i < n + Lib.Blocks.blockCount b (size - offset) → i * b < size) ∧
      0 < Lib.Blocks.blockCount b (size - offset) := by
  rw [Nat.add_mul, ← hoffset] at h
  have hb : 0 < b := Nat.pos_of_ne_zero fun hzero => by
    rw [hzero, Nat.mul_zero] at h
    omega
  refine ⟨?_, le_blockCount_mul hb _, fun i hle hlt => ?_, ?_⟩
  · by_contra hlong
    have := (lt_blockCount_iff hb).mp (Nat.not_le.mp hlong)
    omega
  · obtain ⟨j, rfl⟩ := Nat.exists_eq_add_of_le hle
    have := (lt_blockCount_iff hb).mp (by omega : j < blockCount b (size - offset))
    rw [Nat.add_mul, ← hoffset]
    omega
  · exact (blockCount_pos_iff hb).mpr (by omega)

section
variable (hconnected : device.connected = true) (hbuffer : buffer ≠ [])
  (hfirst : device.bytesOf n < device.buffer.length)
include hconnected hbuffer hfirst

/-- Nothing is copied. -/
theorem reads_of_nothing (hnone : device.bytesOf count = 0) (hresult : transferred count.toInt64 = 0) :
    ReadsExactly device n count buffer := by
  have hinside : device.endOf n count ≤ device.buffer.length := by
    rw [endOf_eq, Nat.add_mul, Nat.add_mod, ← bytesOf_eq, ← bytesOf_eq, hnone, Nat.add_zero, bytesOf_eq, Nat.mod_mod,
      ← bytesOf_eq]
    exact hfirst.le
  refine .of_refused ?_ hresult
  refine (readBlocks_begun hconnected hbuffer hfirst (clamp_inside hinside)).trans ?_
  rw [← bytesOf, hnone, if_pos ⟨Nat.zero_le _, hfirst.le⟩]
  rfl

/-- A range of numbers that begins on the device. -/
theorem reads_of_range (hholds : Holds device count buffer) (hrange : n.toNat + count.toNat < 2 ^ 64)
    (hbytes : (n.toNat + count.toNat) * device.blockSize.toNat < 2 ^ 64) : ReadsExactly device n count buffer := by
  have hmax := device.length_le
  rw [maxSize] at hmax
  have hsum := Nat.add_mul n.toNat count.toNat device.blockSize.toNat
  have hoffset : device.bytesOf n = n.toNat * device.blockSize.toNat := by
    rw [bytesOf_eq, Nat.mod_eq_of_lt (by omega)]
  have hsize : device.bytesOf count = count.toNat * device.blockSize.toNat := by
    rw [bytesOf_eq, Nat.mod_eq_of_lt (by omega)]
  have hend' : device.endOf n count = (n.toNat + count.toNat) * device.blockSize.toNat := by
    rw [endOf_eq, Nat.mod_eq_of_lt hbytes]
  have hholds' : count.toNat * device.blockSize.toNat ≤ buffer.length := hholds
  have hallowed : ¬ MustRefuse device.blockSize.toNat device.buffer.length n.toNat count.toNat :=
    not_mustRefuse_iff.mpr ⟨hrange, by omega, by omega⟩
  by_cases hend : (n.toNat + count.toNat) * device.blockSize.toNat ≤ device.buffer.length
  · -- the whole range lies on the device
    have hread := readBlocks_begun hconnected hbuffer hfirst (clamp_inside (hend'.trans_le hend))
    rw [← bytesOf, hoffset, hsize, if_pos ⟨hholds', by omega⟩] at hread
    by_cases hsmall : count.toNat < 2 ^ 63
    · refine .of_copied hread (k := count.toNat) ?_ rfl ?_ (answers_of_le le_rfl hallowed hend)
      · rw [transferred_toInt64, if_pos hsmall]
      · show count.toNat * device.blockSize.toNat =
          min (count.toNat * device.blockSize.toNat) (device.buffer.length - n.toNat * device.blockSize.toNat)
        omega
    · have hzero : device.blockSize.toNat = 0 := by
        by_contra hpos
        have : count.toNat ≤ count.toNat * device.blockSize.toNat :=
          Nat.le_mul_of_pos_right _ (Nat.pos_of_ne_zero hpos)
        omega
      refine reads_of_nothing hconnected hbuffer hfirst ?_ ?_
      · rw [hsize, hzero, Nat.mul_zero]
      · rw [transferred_toInt64, if_neg hsmall]
  · -- it is cut off at the end
    obtain ⟨byteCount, blockCount, hclamp, hbyte, hblock⟩ := clamp_beyond hfirst (hend' ▸ Nat.not_le.mp hend)
    obtain ⟨hle, hcover, hinside, -⟩ := blockCount_facts hoffset hfirst (Nat.not_le.mp hend)
    have hread := readBlocks_begun hconnected hbuffer hfirst hclamp
    rw [hbyte, hoffset, if_pos ⟨by omega, by omega⟩] at hread
    rw [← hblock] at hle hcover hinside
    rw [hoffset] at hcover hbyte
    refine .of_copied hread (k := blockCount.toNat) ?_ rfl ?_ ⟨hle, hinside, fun hmust => absurd hmust hallowed⟩
    · have hpos : 0 < device.blockSize.toNat := Nat.pos_of_ne_zero fun hzero => by
        rw [hzero, Nat.mul_zero] at hend
        exact hend (Nat.zero_le _)
      have hless : Lib.Blocks.blockCount device.blockSize.toNat (device.buffer.length - device.bytesOf n) ≤
          device.buffer.length := by
        by_contra hlong
        have hlast := (lt_blockCount_iff hpos).mp (Nat.not_le.mp hlong)
        have : device.buffer.length ≤ device.buffer.length * device.blockSize.toNat := Nat.le_mul_of_pos_right _ hpos
        omega
      rw [transferred_toInt64, if_pos (by omega)]
    · show device.buffer.length - n.toNat * device.blockSize.toNat = min (blockCount.toNat * device.blockSize.toNat)
        (device.buffer.length - n.toNat * device.blockSize.toNat)
      omega

end

theorem exact_of_meets (h : Meets (shape device) n count) : Exact device n count := by
  intro buffer hholds
  refine ⟨?_, .of_refused rfl rfl⟩
  by_cases hchecks : device.connected = true ∧ buffer ≠ [] ∧ device.bytesOf n < device.buffer.length
  swap
  · obtain ⟨result, hread, hresult⟩ := @refused device n count buffer fun hconnected hbuffer =>
      Nat.not_lt.mp fun hfirst => hchecks ⟨hconnected, hbuffer, hfirst⟩
    exact .of_refused hread hresult
  obtain ⟨hconnected, hbuffer, hfirst⟩ := hchecks
  rcases h hconnected (device.bytesOf_eq n ▸ hfirst) with ⟨hnone, hcount⟩ | ⟨hrange, hbytes⟩
  · refine reads_of_nothing hconnected hbuffer hfirst ((device.bytesOf_eq count).trans hnone) ?_
    rw [transferred_toInt64]
    rcases hcount with rfl | hlarge
    · rfl
    · rw [if_neg (Nat.not_lt.mpr hlarge)]
  · exact reads_of_range hconnected hbuffer hfirst hholds hrange hbytes

theorem meets_of_exact (h : Exact device n count) : Meets (shape device) n count := by
  intro hconnected hfirst
  have hmax := device.length_le
  rw [maxSize] at hmax
  have hfirst' : device.bytesOf n < device.buffer.length := (device.bytesOf_eq n).trans_lt hfirst
  have hoffset := device.bytesOf_eq n
  have hbytes := device.bytesOf_eq count
  have hsum := Nat.add_mul n.toNat count.toNat device.blockSize.toNat
  have hendOf := device.endOf_eq n count
  by_cases hend : device.endOf n count ≤ device.buffer.length
  · obtain ⟨hinside, ⟨hzero, hnone⟩ | ⟨hrange, hsize, hbegin⟩⟩ := h.copied (hbytes.trans_le (Nat.mod_le _ _)) fun x =>
      readBlocks_begun hconnected (canvas_ne_nil device count x) hfirst' (clamp_inside hend)
    · refine .inl ⟨hbytes.symm.trans hnone, ?_⟩
      rw [transferred_toInt64] at hzero
      by_cases hsmall : count.toNat < 2 ^ 63
      · rw [if_pos hsmall] at hzero
        exact .inl (UInt64.toNat_inj.mp hzero)
      · exact .inr (Nat.not_lt.mp hsmall)
    · have hsize' : count.toNat * device.blockSize.toNat < 2 ^ 64 := hsize
      have hbegin' : n.toNat * device.blockSize.toNat < device.buffer.length := hbegin
      rw [Nat.mod_eq_of_lt hsize'] at hbytes
      refine .inr ⟨hrange, ?_⟩
      show (n.toNat + count.toNat) * device.blockSize.toNat < 2 ^ 64
      have : device.bytesOf n + device.bytesOf count ≤ device.buffer.length := hinside
      omega
  · -- something is copied, so the request is one that need not be refused
    obtain ⟨byteCount, blockCount, hclamp, hbyte, -⟩ := clamp_beyond hfirst' (Nat.not_le.mp hend)
    have hlong : byteCount.toNat ≤ count.toNat * device.blockSize.toNat := by omega
    obtain ⟨-, ⟨-, hnone⟩ | ⟨hrange, hsize, hbegin⟩⟩ := h.copied hlong fun x =>
      readBlocks_begun hconnected (canvas_ne_nil device count x) hfirst' hclamp
    · omega
    · have hsize' : count.toNat * device.blockSize.toNat < 2 ^ 64 := hsize
      have hbegin' : n.toNat * device.blockSize.toNat < device.buffer.length := hbegin
      refine .inr ⟨hrange, ?_⟩
      show (n.toNat + count.toNat) * device.blockSize.toNat < 2 ^ 64
      omega

end

end InitramfsDevice

/-! ## All three devices -/

/-- **Exact arrays.** Each device serves a request exactly if and only if the request meets the device's condition; and
a run of such writes is never undefined and leaves in every block the bytes last written there. -/
theorem memoryDevices_exact (disk : MemoryBackedDisk) (device : VirtualBlockDevice) (ramdisk : InitramfsDevice)
    (n count : UInt64) (writes : List Write) :
    (Exact disk n count ↔ MemoryBackedDisk.Meets (shape disk) n count) ∧
    (Exact device n count ↔ VirtualBlockDevice.Meets (shape device) n count) ∧
    (Exact ramdisk n count ↔ InitramfsDevice.Meets (shape ramdisk) n count) ∧
    ((∀ write ∈ writes, MemoryBackedDisk.Meets (shape disk) write.blockNumber write.blockCount ∧
        Holds disk write.blockCount write.source) →
      ∃ past disk', writeAll disk writes = some (past, disk') ∧ past.map Prod.fst = writes ∧
        shape disk' = shape disk ∧
        ∀ i, blocks disk' i = (lastWritten (shape disk).blockSize past i).getD (blocks disk i)) ∧
    ((∀ write ∈ writes, VirtualBlockDevice.Meets (shape device) write.blockNumber write.blockCount ∧
        Holds device write.blockCount write.source) →
      ∃ past device', writeAll device writes = some (past, device') ∧ past.map Prod.fst = writes ∧
        shape device' = shape device ∧
        ∀ i, blocks device' i = (lastWritten (shape device).blockSize past i).getD (blocks device i)) := by
  refine ⟨⟨fun h => ?_, fun h => ?_⟩, ⟨fun h => ?_, fun h => ?_⟩, ⟨fun h => ?_, fun h => ?_⟩, fun h => ?_, fun h => ?_⟩
  · exact MemoryBackedDisk.meets_of_exact h
  · exact MemoryBackedDisk.exact_of_meets h
  · exact VirtualBlockDevice.meets_of_exact h
  · exact VirtualBlockDevice.exact_of_meets h
  · exact InitramfsDevice.meets_of_exact h
  · exact InitramfsDevice.exact_of_meets h
  · exact run_exact (fun _ _ _ => MemoryBackedDisk.exact_of_meets) disk writes h
  · exact run_exact (fun _ _ _ => VirtualBlockDevice.exact_of_meets) device writes h

/-- A device of two sectors. -/
def twoSectors : VirtualBlockDevice where
  sectorSize := 512
  connected := true
  memoryBuffer := List.replicate 1024 7
  length_le := by rw [List.length_replicate]; decide

/-- A read of a sector whose offset wraps around to the first byte. -/
theorem memoryDevices_wrapped :
    twoSectors.readSectors (2 ^ 55) 1 (List.replicate 512 0) = .returned 1 (List.replicate 512 7) ∧
      ¬ ∀ (device : VirtualBlockDevice) n count, Exact device n count := by
  constructor
  · refine (@VirtualBlockDevice.readSectors_valid twoSectors (2 ^ 55) 1 (List.replicate 512 0) rfl
      (List.cons_ne_nil _ _) (by decide) (by decide +kernel)).trans ?_
    rw [if_pos ⟨by decide +kernel, by decide +kernel⟩]
    exact congrArg (Outcome.returned 1) (by decide +kernel)
  · intro h
    rcases VirtualBlockDevice.meets_of_exact (h twoSectors (2 ^ 55) 1) rfl (by decide) (by decide +kernel) with
      ⟨-, hlarge⟩ | ⟨-, hfirst, -⟩
    · exact absurd hlarge (by decide)
    · exact absurd hfirst (by decide +kernel)

end GuideXOS.Storage
