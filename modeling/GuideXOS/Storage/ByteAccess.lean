import GuideXOS.Lib.Words
import GuideXOS.Storage.MemoryBackedDisk

/-!
# `ByteAccess` — byte access through blocks

What `readBytes` and `writeBytes` do, for every offset and size. A call that gets as far as the disk's blocks is in
one of three cases (`reached_cases`): the range of bytes is a range of numbers and so are its blocks (`plain`), or
the blocks' length wraps around and the block buffer is too small, or the end of the range wraps around into the
block it starts in. From that follows when a call is exact (`readBytes_iff`, `writeBytes_iff`).
-/

namespace GuideXOS.Storage

/-! ## Counts -/

theorem toInt_toInt64 {x : UInt64} (hx : x.toNat < 2 ^ 63) : x.toInt64.toInt = x.toNat := by
  show x.toBitVec.toInt = _
  have hlt : 2 * x.toBitVec.toNat < 2 ^ 64 := by
    rw [UInt64.toNat_toBitVec]
    omega
  rw [BitVec.toInt_eq_toNat_of_lt hlt, UInt64.toNat_toBitVec]

/-- A count of blocks is not an error. -/
theorem not_toInt64_le_zero {x : UInt64} (hpos : 0 < x.toNat) (hx : x.toNat < 2 ^ 63) : ¬ x.toInt64 ≤ 0 := by
  rw [Int64.le_iff_toInt_le, toInt_toInt64 hx, Int64.toInt_zero]
  omega

namespace MemoryBackedDisk

section Disk
variable {disk : MemoryBackedDisk} {offset size a : UInt64} {buffer : List UInt8}

theorem startBlock_toNat (disk : MemoryBackedDisk) (offset : UInt64) :
    (disk.startBlock offset).toNat = offset.toNat / disk.blockSize.toNat := by
  rw [startBlock, UInt64.toNat_div, bytesPerBlock_toNat]

/-- The last byte of a range, as the code computes it. -/
theorem lastByte_toNat (hsize : size ≠ 0) : (offset + size - 1).toNat =
    if offset.toNat + size.toNat ≤ 2 ^ 64 then offset.toNat + size.toNat - 1
    else offset.toNat + size.toNat - 1 - 2 ^ 64 := by
  have hpos : 0 < size.toNat := Nat.pos_of_ne_zero fun h => hsize (UInt64.toNat_inj.mp h)
  have ho := offset.toNat_lt
  have hz := size.toNat_lt
  rw [UInt64.toNat_sub, UInt64.toNat_add, UInt64.toNat_one]
  split <;> omega

theorem numBlocks_toNat (disk : MemoryBackedDisk) (offset size : UInt64) : (disk.numBlocks offset size).toNat =
    ((offset + size - 1).toNat / disk.blockSize.toNat + 2 ^ 64 - offset.toNat / disk.blockSize.toNat + 1) % 2 ^ 64 := by
  have hstart : offset.toNat / disk.blockSize.toNat ≤ offset.toNat := Nat.div_le_self _ _
  have ho := offset.toNat_lt
  rw [numBlocks, UInt64.toNat_add, UInt64.toNat_sub, startBlock_toNat, UInt64.toNat_div, bytesPerBlock_toNat,
    UInt64.toNat_one, Nat.mod_add_mod]
  generalize offset.toNat / disk.blockSize.toNat = start at *
  generalize (offset + size - 1).toNat / disk.blockSize.toNat = stop
  congr 1
  omega

theorem span_eq (disk : MemoryBackedDisk) (offset size : UInt64) :
    disk.span offset size = (disk.numBlocks offset size).toNat * disk.blockSize.toNat % 2 ^ 64 := by
  rw [span, UInt64.toNat_mul, bytesPerBlock_toNat]

/-- The block an offset is in. -/
theorem block_bounds {b : Nat} (hb : 0 < b) (o : Nat) : o / b * b ≤ o ∧ o < o / b * b + b := by
  have := Nat.div_add_mod o b
  have := Nat.mod_lt o hb
  rw [Nat.mul_comm]
  omega

/-- Going on by `k` bytes goes on by at most `k` blocks. -/
theorem div_add_le {b : Nat} (hb : 0 < b) (o k : Nat) : (o + k) / b ≤ o / b + k := by
  have hlt : (o + k) / b < o / b + k + 1 := by
    refine (Nat.div_lt_iff_lt_mul hb).mpr ?_
    have := (block_bounds hb o).2
    have : k ≤ k * b := Nat.le_mul_of_pos_right k hb
    rw [Nat.add_mul, Nat.add_mul, Nat.one_mul]
    omega
  omega

/-- The bytes of the blocks from `s` to `e`. -/
theorem blocks_mul {s e : Nat} (h : s ≤ e) (b : Nat) : (e - s + 1) * b + s * b = e * b + b := by
  rw [← Nat.add_mul, show e - s + 1 + s = e + 1 by omega, Nat.add_mul, Nat.one_mul]

/-- A number of blocks that wraps around is nothing, or next to the whole of the words. -/
theorem wrapped_span {s e b o : Nat} (h : e < s) (hs : s * b ≤ o) (ho : o < 2 ^ 64) :
    (e + 2 ^ 64 - s + 1) % 2 ^ 64 * b % 2 ^ 64 = 0 ∨ 2 ^ 64 - o ≤ (e + 2 ^ 64 - s + 1) % 2 ^ 64 * b % 2 ^ 64 := by
  rcases Nat.eq_zero_or_pos b with rfl | hb
  · exact .inl (by rw [Nat.mul_zero, Nat.zero_mod])
  · have hsb : s ≤ s * b := Nat.le_mul_of_pos_right s hb
    obtain ⟨k, rfl⟩ : ∃ k, s = e + 1 + k := Nat.exists_eq_add_of_le h
    rcases Nat.eq_zero_or_pos k with rfl | hk
    · have hzero : (e + 2 ^ 64 - (e + 1 + 0) + 1) % 2 ^ 64 = 0 := by omega
      exact .inl (by rw [hzero, Nat.zero_mul, Nat.zero_mod])
    · have hnum : (e + 2 ^ 64 - (e + 1 + k) + 1) % 2 ^ 64 = 2 ^ 64 - k := by omega
      have hkb : k * b ≤ o := by
        have : k * b ≤ (e + 1 + k) * b := Nat.mul_le_mul_right b (by omega)
        omega
      have hkpos : 0 < k * b := Nat.mul_pos hk hb
      obtain ⟨c, rfl⟩ : ∃ c, b = c + 1 := Nat.exists_eq_add_of_le' hb
      have hproduct : (2 ^ 64 - k) * (c + 1) = (2 ^ 64 - k * (c + 1)) + c * 2 ^ 64 := by
        rw [Nat.sub_mul]
        have : k * (c + 1) ≤ 2 ^ 64 := by omega
        omega
      rw [hnum, hproduct, Nat.add_mul_mod_self_right, Nat.mod_eq_of_lt (by omega)]
      exact .inr (by omega)

/-- Where the block of an offset starts. -/
def blockStart (disk : MemoryBackedDisk) (offset : UInt64) : Nat :=
  offset.toNat / disk.blockSize.toNat * disk.blockSize.toNat

/-- Where the last whole block of the disk ends. -/
def wholeBytes (disk : MemoryBackedDisk) : Nat := disk.buffer.length / disk.blockSize.toNat * disk.blockSize.toNat

/-- The disk's validation lets `a` blocks through. -/
abbrev Transfers (disk : MemoryBackedDisk) (offset size a : UInt64) : Prop :=
  disk.actualBlockCount (disk.startBlock offset) (disk.numBlocks offset size) = some a

theorem blockStart_add (disk : MemoryBackedDisk) (offset : UInt64) :
    disk.blockStart offset + offset.toNat % disk.blockSize.toNat = offset.toNat :=
  Nat.div_add_mod' _ _

theorem wholeBytes_le (disk : MemoryBackedDisk) : disk.wholeBytes ≤ disk.buffer.length :=
  Nat.div_mul_le_self _ _

theorem length_lt (disk : MemoryBackedDisk) : disk.buffer.length < 2 ^ 63 :=
  Nat.lt_of_le_of_lt disk.length_le (by decide)

theorem startBlock_mul_toNat (disk : MemoryBackedDisk) (offset : UInt64) :
    (disk.startBlock offset * disk.bytesPerBlock).toNat = disk.blockStart offset := by
  rw [UInt64.toNat_mul, startBlock_toNat, bytesPerBlock_toNat]
  exact Nat.mod_eq_of_lt ((Nat.div_mul_le_self _ _).trans_lt offset.toNat_lt)

theorem blocks_toNat (h : a.toNat * disk.blockSize.toNat ≤ disk.buffer.length) :
    (a * disk.bytesPerBlock).toNat = a.toNat * disk.blockSize.toNat := by
  rw [UInt64.toNat_mul, bytesPerBlock_toNat]
  exact Nat.mod_eq_of_lt (h.trans_lt (disk.length_lt.trans (by decide)))

/-- A call that gets as far as the disk's blocks. -/
structure Reached (disk : MemoryBackedDisk) (offset size : UInt64) : Prop where
  size_ne : size ≠ 0
  blockSize_ne : disk.blockSize ≠ 0
  span_le : disk.span offset size ≤ maxSize
  span_pos : 0 < disk.span offset size
  connected : disk.connected = true
  inside : offset.toNat / disk.blockSize.toNat < disk.buffer.length / disk.blockSize.toNat

/-- A call that the disk refuses, or that has no buffer to offer. -/
def Refused (disk : MemoryBackedDisk) (offset size : UInt64) : Prop :=
  disk.span offset size = 0 ∨ disk.connected = false ∨
    disk.buffer.length / disk.blockSize.toNat ≤ offset.toNat / disk.blockSize.toNat

/-- The range is a range of numbers, and so are its blocks. -/
structure Plain (disk : MemoryBackedDisk) (offset size : UInt64) : Prop where
  range : offset.toNat + size.toNat ≤ 2 ^ 64
  numBlocks : (disk.numBlocks offset size).toNat =
    (offset.toNat + size.toNat - 1) / disk.blockSize.toNat - offset.toNat / disk.blockSize.toNat + 1
  span : disk.span offset size = (disk.numBlocks offset size).toNat * disk.blockSize.toNat
  actual : ∃ a, disk.actualBlockCount (disk.startBlock offset) (disk.numBlocks offset size) = some a ∧
    a.toNat = min (disk.numBlocks offset size).toNat
      (disk.buffer.length / disk.blockSize.toNat - offset.toNat / disk.blockSize.toNat)

theorem blockSize_pos (h : disk.blockSize ≠ 0) : 0 < disk.blockSize.toNat :=
  Nat.pos_of_ne_zero fun hzero => h (UInt32.toNat_inj.mp hzero)

namespace Reached
variable (h : Reached disk offset size)
include h

theorem size_pos : 0 < size.toNat :=
  Nat.pos_of_ne_zero fun hzero => h.size_ne (UInt64.toNat_inj.mp hzero)

theorem blockSize_pos : 0 < disk.blockSize.toNat := MemoryBackedDisk.blockSize_pos h.blockSize_ne

theorem lt_block (offset : UInt64) : offset.toNat < disk.blockStart offset + disk.blockSize.toNat :=
  (block_bounds h.blockSize_pos _).2

/-- The first block lies on the disk as a whole. -/
theorem block_le : disk.blockStart offset + disk.blockSize.toNat ≤ disk.wholeBytes := by
  have hmul := Nat.mul_le_mul_right disk.blockSize.toNat (Nat.succ_le_of_lt h.inside)
  rwa [Nat.succ_mul] at hmul

theorem ne_nil (hlength : buffer.length = disk.span offset size) : buffer ≠ [] :=
  List.ne_nil_of_length_pos (hlength ▸ h.span_pos)

end Reached

/-- What is transferred when the disk's validation passes. -/
theorem actualBlockCount_eq (h : Reached disk offset size)
    (hsum : offset.toNat / disk.blockSize.toNat + (disk.numBlocks offset size).toNat < 2 ^ 64) :
    ∃ a, disk.Transfers offset size a ∧
      a.toNat = min (disk.numBlocks offset size).toNat
        (disk.buffer.length / disk.blockSize.toNat - offset.toNat / disk.blockSize.toNat) := by
  have hinside := h.inside
  have hstart : ¬ disk.totalBlocks ≤ disk.startBlock offset := by
    rw [UInt64.le_iff_toNat_le, totalBlocks_toNat, startBlock_toNat]
    omega
  have hadd : (disk.startBlock offset + disk.numBlocks offset size).toNat =
      offset.toNat / disk.blockSize.toNat + (disk.numBlocks offset size).toNat := by
    rw [UInt64.toNat_add, startBlock_toNat, Nat.mod_eq_of_lt hsum]
  have hconnected : (!disk.connected) = false := by rw [h.connected]; rfl
  unfold Transfers actualBlockCount
  rw [hconnected, if_neg Bool.false_ne_true, if_neg hstart]
  by_cases hclamp : disk.totalBlocks < disk.startBlock offset + disk.numBlocks offset size
  · rw [if_pos hclamp]
    refine ⟨_, rfl, ?_⟩
    rw [UInt64.toNat_sub_of_le _ _ (UInt64.le_of_lt (UInt64.not_le.mp hstart)), totalBlocks_toNat, startBlock_toNat]
    rw [UInt64.lt_iff_toNat_lt, totalBlocks_toNat, hadd] at hclamp
    omega
  · rw [if_neg hclamp]
    refine ⟨_, rfl, ?_⟩
    rw [UInt64.lt_iff_toNat_lt, totalBlocks_toNat, hadd] at hclamp
    omega

/-- A call that stops at the disk's validation. -/
theorem actualBlockCount_refused {blockCount : UInt64}
    (h : disk.connected = false ∨ disk.buffer.length / disk.blockSize.toNat ≤ offset.toNat / disk.blockSize.toNat) :
    disk.actualBlockCount (disk.startBlock offset) blockCount = none := by
  unfold actualBlockCount
  cases hconnected : disk.connected with
  | false => rfl
  | true =>
      rw [hconnected] at h
      have hbehind := h.resolve_left (by decide)
      rw [Bool.not_true, if_neg Bool.false_ne_true, if_pos]
      rwa [UInt64.le_iff_toNat_le, totalBlocks_toNat, startBlock_toNat]

/-- **The three cases** of a call that reaches the disk's blocks. -/
theorem reached_cases (h : Reached disk offset size) :
    Plain disk offset size ∨
    (disk.span offset size < disk.blockSize.toNat ∧
      disk.span offset size < offset.toNat % disk.blockSize.toNat + size.toNat ∧
      2 ^ 64 ≤ (disk.numBlocks offset size).toNat * disk.blockSize.toNat ∧
      2 ^ 64 < offset.toNat + size.toNat + disk.blockSize.toNat ∧
      ∃ a, disk.Transfers offset size a ∧ 0 < a.toNat ∧
        a.toNat ≤ disk.buffer.length / disk.blockSize.toNat) ∨
    (2 ^ 64 < offset.toNat + size.toNat ∧ disk.numBlocks offset size = 1 ∧
      disk.span offset size = disk.blockSize.toNat ∧
      disk.Transfers offset size 1) := by
  have hb := h.blockSize_pos
  have hb32 := disk.blockSize.toNat_lt
  have ho := offset.toNat_lt
  have hz := size.toNat_lt
  have hpos := h.size_pos
  have hnum := numBlocks_toNat disk offset size
  have hspan := span_eq disk offset size
  have hlast : (offset + size - 1).toNat = _ := lastByte_toNat h.size_ne
  have hstart := h.lt_block offset
  obtain ⟨hend, hend'⟩ := block_bounds hb (offset + size - 1).toNat
  have hinside := h.inside
  have hblock := h.block_le
  have hspan_le := h.span_le
  have hspan_pos := h.span_pos
  have hlength := disk.length_lt
  have hwhole := disk.wholeBytes_le
  have hstartDiv : offset.toNat / disk.blockSize.toNat ≤ offset.toNat := Nat.div_le_self _ _
  have hmod := disk.blockStart_add offset
  unfold maxSize at hspan_le
  by_cases hrange : offset.toNat + size.toNat ≤ 2 ^ 64
  · -- the last byte is behind the first, so the blocks are counted right; their bytes may wrap around
    rw [if_pos hrange] at hlast
    rw [hlast] at hnum hend hend'
    have hle : offset.toNat / disk.blockSize.toNat ≤ (offset.toNat + size.toNat - 1) / disk.blockSize.toNat :=
      Nat.div_le_div_right (by omega)
    have hgap := div_add_le hb offset.toNat (size.toNat - 1)
    rw [show offset.toNat + (size.toNat - 1) = offset.toNat + size.toNat - 1 by omega] at hgap
    have hnum' : (disk.numBlocks offset size).toNat =
        (offset.toNat + size.toNat - 1) / disk.blockSize.toNat - offset.toNat / disk.blockSize.toNat + 1 := by
      omega
    have hproduct : _ + disk.blockStart offset = _ := blocks_mul hle disk.blockSize.toNat
    rw [← hnum'] at hproduct
    by_cases hfits : (disk.numBlocks offset size).toNat * disk.blockSize.toNat < 2 ^ 64
    · rw [Nat.mod_eq_of_lt hfits] at hspan
      have hlastBlock : (offset.toNat + size.toNat - 1) / disk.blockSize.toNat + 1 ≤
          ((offset.toNat + size.toNat - 1) / disk.blockSize.toNat + 1) * disk.blockSize.toNat :=
        Nat.le_mul_of_pos_right _ hb
      rw [Nat.add_mul, Nat.one_mul] at hlastBlock
      exact .inl ⟨hrange, hnum', hspan, actualBlockCount_eq h (by omega)⟩
    · have hdouble : (offset.toNat + size.toNat - 1) / disk.blockSize.toNat + 1 < 2 ^ 64 := by
        have htwo : 2 ≤ disk.blockSize.toNat := by
          by_contra hone
          have : disk.blockSize.toNat = 1 := by omega
          rw [this] at hfits
          omega
        have := Nat.mul_le_mul_left ((offset.toNat + size.toNat - 1) / disk.blockSize.toNat) htwo
        omega
      obtain ⟨a, ha, hcount⟩ := actualBlockCount_eq h (by omega)
      have hle : a.toNat ≤ disk.buffer.length / disk.blockSize.toNat :=
        hcount.trans_le ((Nat.min_le_right _ _).trans (Nat.sub_le _ _))
      exact .inr (.inl ⟨by omega, by omega, by omega, by omega, a, ha, by omega, hle⟩)
  · -- the last byte is before the first: in the same block, or in an earlier one
    rw [if_neg hrange] at hlast
    rw [hlast] at hnum hend hend'
    have hle : (offset.toNat + size.toNat - 1 - 2 ^ 64) / disk.blockSize.toNat ≤
        offset.toNat / disk.blockSize.toNat := Nat.div_le_div_right (by omega)
    rcases Nat.eq_or_lt_of_le hle with hsame | hbefore
    · have hone : (disk.numBlocks offset size).toNat = 1 := by omega
      have hspan' : disk.span offset size = disk.blockSize.toNat := by
        rw [hspan, hone, Nat.one_mul, Nat.mod_eq_of_lt (by omega)]
      obtain ⟨a, ha, hcount⟩ := actualBlockCount_eq h (by omega)
      have hactual : a = 1 := UInt64.toNat_inj.mp (by rw [hcount, hone, UInt64.toNat_one]; omega)
      exact .inr (.inr ⟨by omega, UInt64.toNat_inj.mp hone, hspan', hactual ▸ ha⟩)
    · -- the number of blocks wraps around to a span that no vector holds
      exfalso
      have hgap : _ = disk.blockStart offset + _ := blocks_mul hbefore disk.blockSize.toNat
      have hcount : (disk.numBlocks offset size).toNat * disk.blockSize.toNat % 2 ^ 64 = 0 ∨
          2 ^ 64 - offset.toNat ≤ (disk.numBlocks offset size).toNat * disk.blockSize.toNat % 2 ^ 64 := by
        rw [hnum]
        exact wrapped_span hbefore (Nat.div_mul_le_self _ _) ho
      omega

/-! ## Blocks -/

section
variable {n count : UInt64} {p k : Nat} (hbuffer : buffer ≠ []) (hblock : disk.blockSize ≠ 0)
  (hactual : disk.actualBlockCount n count = some a) (hoffset : (n * disk.bytesPerBlock).toNat = p)
  (hbytes : (a * disk.bytesPerBlock).toNat = k)
include hbuffer hblock hactual hoffset hbytes

/-- A read that passes the validation. -/
theorem readBlocks_of_actual : disk.readBlocks n count buffer =
    if k ≤ buffer.length ∧ p + k ≤ disk.buffer.length then
      .returned a.toInt64 ((disk.buffer.drop p).take k ++ buffer.drop k)
    else .undefined := by
  subst hoffset hbytes
  rw [readBlocks, if_neg hbuffer, if_neg (not_divides_zero hblock), hactual]

/-- A write that passes the validation, from a buffer that is long enough. -/
theorem writeBlocks_of_actual (hfits : k ≤ buffer.length) (hinside : p + k ≤ disk.buffer.length) :
    ∃ disk', disk.writeBlocks n count buffer = .returned a.toInt64 disk' ∧ disk'.blockSize = disk.blockSize ∧
      disk'.connected = disk.connected ∧ disk'.buffer = disk.buffer.take p ++ buffer.take k ++ disk.buffer.drop (p + k) := by
  subst hoffset hbytes
  have htake : (buffer.take (a * disk.bytesPerBlock).toNat).length = (a * disk.bytesPerBlock).toNat :=
    List.length_take_of_le hfits
  rw [writeBlocks, if_neg hbuffer, if_neg (not_divides_zero hblock), hactual]
  dsimp only
  rw [dif_pos ⟨hfits, htake.symm ▸ hinside⟩]
  refine ⟨_, rfl, rfl, rfl, ?_⟩
  show _ ++ _ ++ disk.buffer.drop (_ + (buffer.take _).length) = _
  rw [htake]

end

/-! ## Reading -/

/-- A read that does not get as far as the disk's blocks is an error. -/
theorem readBlocks_refused (hblockSize : disk.blockSize ≠ 0) (hlength : buffer.length = disk.span offset size)
    (h : Refused disk offset size) :
    disk.readBlocks (disk.startBlock offset) (disk.numBlocks offset size) buffer = .returned (-1) buffer := by
  unfold readBlocks
  by_cases hnull : buffer = []
  · rw [if_pos hnull]
  · have hrest := h.resolve_left fun hzero => hnull (List.length_eq_zero_iff.mp (hlength.trans hzero))
    rw [if_neg hnull, if_neg (not_divides_zero hblockSize), actualBlockCount_refused hrest]

theorem readBlocks_reached (h : Reached disk offset size) (hactual : disk.Transfers offset size a)
    (hlength : buffer.length = disk.span offset size) (ha : a.toNat * disk.blockSize.toNat ≤ disk.buffer.length) :
    disk.readBlocks (disk.startBlock offset) (disk.numBlocks offset size) buffer =
      if a.toNat * disk.blockSize.toNat ≤ disk.span offset size ∧
          disk.blockStart offset + a.toNat * disk.blockSize.toNat ≤ disk.buffer.length then
        .returned a.toInt64 ((disk.buffer.drop (disk.blockStart offset)).take (a.toNat * disk.blockSize.toNat) ++
          buffer.drop (a.toNat * disk.blockSize.toNat))
      else .undefined := by
  rw [← hlength, readBlocks_of_actual (h.ne_nil hlength) h.blockSize_ne hactual (disk.startBlock_mul_toNat offset)
    (blocks_toNat ha)]

/-- A read into a buffer that is too short. -/
theorem readBlocks_overflow (h : Reached disk offset size) (hactual : disk.Transfers offset size a)
    (hlength : buffer.length = disk.span offset size) (hpos : 0 < a.toNat)
    (hle : a.toNat ≤ disk.buffer.length / disk.blockSize.toNat)
    (hshort : disk.span offset size < disk.blockSize.toNat) :
    disk.readBlocks (disk.startBlock offset) (disk.numBlocks offset size) buffer = .undefined := by
  have hblock : disk.blockSize.toNat ≤ a.toNat * disk.blockSize.toNat := Nat.le_mul_of_pos_left _ hpos
  rw [readBlocks_reached h hactual hlength ((Nat.mul_le_mul_right _ hle).trans disk.wholeBytes_le), if_neg (by omega)]

/-- Copying out of a block buffer that starts with the disk's blocks. -/
theorem take_drop_blocks {bytes pad : List UInt8} {p n k c : Nat} (hle : k + c ≤ n) (hn : p + n ≤ bytes.length) :
    (((bytes.drop p).take n ++ pad).drop k).take c = (bytes.drop (p + k)).take c := by
  have hlength : ((bytes.drop p).take n).length = n := by
    rw [List.length_take, List.length_drop]
    omega
  rw [List.drop_append_of_le_length (by omega), List.take_append_of_le_length (by rw [List.length_drop]; omega),
    List.drop_take, List.take_take, List.drop_drop, Nat.min_eq_left (by omega)]

/-- What `readBytes` does with `a` blocks in its buffer. -/
theorem readBytes_some (h : Reached disk offset size)
    (hactual : disk.Transfers offset size a)
    (hpos : 0 < a.toNat) (hle : a.toNat * disk.blockSize.toNat ≤ disk.span offset size)
    (hdisk : disk.blockStart offset + a.toNat * disk.blockSize.toNat ≤
      disk.buffer.length) :
    ∃ count : UInt64,
      count.toNat = min size.toNat (a.toNat * disk.blockSize.toNat - offset.toNat % disk.blockSize.toNat) ∧
      disk.readBytes offset size = .returned count.toInt64 ((disk.buffer.drop offset.toNat).take count.toNat) := by
  have hb := h.blockSize_pos
  have hlt := disk.length_lt
  have hblock : disk.blockSize.toNat ≤ a.toNat * disk.blockSize.toNat := Nat.le_mul_of_pos_left _ hpos
  have hmod := Nat.mod_lt offset.toNat hb
  have hdiv := disk.blockStart_add offset
  have hoffset : (offset % disk.bytesPerBlock).toNat = offset.toNat % disk.blockSize.toNat := by
    rw [UInt64.toNat_mod, bytesPerBlock_toNat]
  have hblocks : (a * disk.bytesPerBlock - offset % disk.bytesPerBlock).toNat =
      a.toNat * disk.blockSize.toNat - offset.toNat % disk.blockSize.toNat := by
    have hmul : (a * disk.bytesPerBlock).toNat = a.toNat * disk.blockSize.toNat := blocks_toNat (by omega)
    rw [UInt64.toNat_sub_of_le _ _ (by rw [UInt64.le_iff_toNat_le, hmul, hoffset]; omega), hmul, hoffset]
  have ha : a.toNat ≤ a.toNat * disk.blockSize.toNat := Nat.le_mul_of_pos_right _ hb
  have hcount : (min size (a * disk.bytesPerBlock - offset % disk.bytesPerBlock)).toNat =
      min size.toNat (a.toNat * disk.blockSize.toNat - offset.toNat % disk.blockSize.toNat) := by
    rw [Lib.Words.toNat_min, hblocks]
  refine ⟨_, hcount, ?_⟩
  unfold readBytes
  rw [if_neg h.size_ne, if_neg h.blockSize_ne, if_neg (Nat.not_lt.mpr h.span_le),
    readBlocks_reached h hactual List.length_replicate (by omega), if_pos ⟨hle, hdisk⟩]
  dsimp only
  rw [if_neg (not_toInt64_le_zero hpos (by omega)), UInt64.toUInt64_toInt64, hcount, hoffset, if_pos,
    take_drop_blocks (by omega) hdisk, hdiv]
  simp only [List.length_append, List.length_take, List.length_drop, List.length_replicate]
  omega

/-- The blocks of a plain range: what is transferred of them, and where the range lies in them. -/
theorem Plain.blocks (h : Reached disk offset size) (hplain : Plain disk offset size) :
    ∃ a, disk.Transfers offset size a ∧ 0 < a.toNat ∧
      a.toNat * disk.blockSize.toNat = min (disk.span offset size)
        (disk.wholeBytes -
          disk.blockStart offset) ∧
      disk.blockStart offset + a.toNat * disk.blockSize.toNat ≤
        disk.buffer.length ∧
      offset.toNat % disk.blockSize.toNat + size.toNat ≤ disk.span offset size ∧
      disk.blockStart offset + disk.span offset size <
        offset.toNat + size.toNat + disk.blockSize.toNat ∧
      (offset.toNat + size.toNat ≤ disk.wholeBytes →
        disk.blockStart offset + disk.span offset size ≤
          disk.wholeBytes) := by
  have hb := h.blockSize_pos
  have hpos := h.size_pos
  obtain ⟨a, hactual, ha⟩ := hplain.actual
  have hinside := h.inside
  have hnum := hplain.numBlocks
  obtain ⟨hend, hend'⟩ := block_bounds hb (offset.toNat + size.toNat - 1)
  have hdiv := disk.blockStart_add offset
  have hle : offset.toNat / disk.blockSize.toNat ≤ (offset.toNat + size.toNat - 1) / disk.blockSize.toNat :=
    Nat.div_le_div_right (by omega)
  have hproduct : _ + disk.blockStart offset = _ := blocks_mul hle disk.blockSize.toNat
  rw [← hnum, ← hplain.span] at hproduct
  have hwhole := disk.wholeBytes_le
  have hmin : a.toNat * disk.blockSize.toNat = min (disk.span offset size)
      (disk.wholeBytes -
        disk.blockStart offset) := by
    rw [ha, ← Nat.mul_min_mul_right, Nat.sub_mul, hplain.span]
    rfl
  have hnumpos : 0 < (disk.numBlocks offset size).toNat := by omega
  have hapos : 0 < a.toNat := by
    rw [ha]
    exact Nat.lt_min.mpr ⟨hnumpos, Nat.sub_pos_of_lt hinside⟩
  have hfirst := h.block_le
  refine ⟨a, hactual, hapos, hmin, by omega, by omega, by omega, fun hfits => ?_⟩
  have hlast : (offset.toNat + size.toNat - 1) / disk.blockSize.toNat < disk.buffer.length / disk.blockSize.toNat :=
    (Nat.div_lt_iff_lt_mul hb).mpr (show _ < disk.wholeBytes by omega)
  have hmul : _ ≤ disk.wholeBytes := Nat.mul_le_mul_right disk.blockSize.toNat (Nat.succ_le_of_lt hlast)
  rw [Nat.succ_mul] at hmul
  omega

/-- **A plain read** returns what there is up to the last whole block. -/
theorem Plain.readBytes (h : Reached disk offset size) (hplain : Plain disk offset size) :
    ∃ count : UInt64, count.toNat =
        min size.toNat (disk.wholeBytes - offset.toNat) ∧
      disk.readBytes offset size = .returned count.toInt64 ((disk.buffer.drop offset.toNat).take count.toNat) := by
  obtain ⟨a, hactual, hapos, hmin, hdisk, hin, -, -⟩ := hplain.blocks h
  have hdiv := disk.blockStart_add offset
  obtain ⟨count, hcount, hread⟩ := readBytes_some h hactual hapos (by omega) hdisk
  exact ⟨count, by omega, hread⟩

/-- **When a read that reaches the disk is exact.** The range does not wrap around and the disk ends with a whole
    block, or the range does; or the range wraps around and starts in the block the disk ends with. -/
def ReadsWhole (disk : MemoryBackedDisk) (offset size : UInt64) : Prop :=
  (offset.toNat + size.toNat ≤ 2 ^ 64 ∧ (disk.numBlocks offset size).toNat * disk.blockSize.toNat < 2 ^ 64 ∧
    (disk.blockSize.toNat ∣ disk.buffer.length ∨
      offset.toNat + size.toNat ≤ disk.buffer.length / disk.blockSize.toNat * disk.blockSize.toNat)) ∨
  (2 ^ 64 < offset.toNat + size.toNat ∧ disk.numBlocks offset size = 1 ∧
    (offset.toNat / disk.blockSize.toNat + 1) * disk.blockSize.toNat = disk.buffer.length)

/-- **When a read is exact.** There is nothing to read, or the disk refuses, or what is read is whole. -/
def ReadCond (disk : MemoryBackedDisk) (offset size : UInt64) : Prop :=
  size = 0 ∨ (disk.blockSize ≠ 0 ∧ disk.span offset size ≤ maxSize ∧
    (Refused disk offset size ∨ ReadsWhole disk offset size))

/-- **An exact read.** An error, or all bytes of the range that the disk has. -/
def ReadExact (disk : MemoryBackedDisk) (offset size : UInt64) : Prop :=
  ∃ count left, disk.readBytes offset size = .returned count left ∧ (count.toInt < 0 ∨
    (count.toInt = (min size.toNat (disk.buffer.length - offset.toNat) : Nat) ∧
      left = (disk.buffer.drop offset.toNat).take (min size.toNat (disk.buffer.length - offset.toNat))))

theorem not_readExact (h : ∀ count left, disk.readBytes offset size ≠ .returned count left) :
    ¬ ReadExact disk offset size := fun ⟨count, left, hread, _⟩ => h count left hread

theorem readExact_of_error {left : List UInt8} (h : disk.readBytes offset size = .returned (-1) left) :
    ReadExact disk offset size := ⟨-1, left, h, .inl (by decide)⟩

/-- A read that returns a count of bytes is exact exactly if it is the right count. -/
theorem readExact_iff_count {count : UInt64} (hcount : count.toNat < 2 ^ 63)
    (h : disk.readBytes offset size = .returned count.toInt64 ((disk.buffer.drop offset.toNat).take count.toNat)) :
    ReadExact disk offset size ↔ count.toNat = min size.toNat (disk.buffer.length - offset.toNat) := by
  constructor
  · rintro ⟨count', left', hread, hexact⟩
    obtain ⟨rfl, rfl⟩ := Outcome.returned.inj (h.symm.trans hread)
    rw [toInt_toInt64 hcount] at hexact
    rcases hexact with hneg | ⟨hcount, -⟩
    · omega
    · exact Int.ofNat.inj hcount
  · intro hsame
    refine ⟨_, _, h, .inr ⟨?_, by rw [hsame]⟩⟩
    rw [toInt_toInt64 hcount, hsame]

/-- **A read that reaches the disk.** -/
theorem readExact_reached (h : Reached disk offset size) :
    ReadExact disk offset size ↔ ReadsWhole disk offset size := by
  have hb := h.blockSize_pos
  have hb32 := disk.blockSize.toNat_lt
  have hlength := disk.length_lt
  have hsizepos := h.size_pos
  have hblock := h.block_le
  have hwhole := disk.wholeBytes_le
  have hdiv := disk.blockStart_add offset
  have hstart := h.lt_block offset
  rcases reached_cases h with hplain | ⟨hshort, -, hlong, -, a, hactual, hapos, hale⟩ | ⟨hwrap, hone, hspan, hactual⟩
  · have hrange := hplain.range
    have hspanlt : (disk.numBlocks offset size).toNat * disk.blockSize.toNat < 2 ^ 64 :=
      hplain.span ▸ Nat.lt_of_le_of_lt h.span_le (by decide)
    have hdvd : disk.blockSize.toNat ∣ disk.buffer.length ↔ disk.wholeBytes = disk.buffer.length :=
      ⟨Nat.div_mul_cancel, fun heq => ⟨_, by rw [Nat.mul_comm]; exact heq.symm⟩⟩
    obtain ⟨count, hcount, hread⟩ := hplain.readBytes h
    rw [readExact_iff_count (by omega) hread, hcount, ReadsWhole, hdvd]
    change _ ↔ (_ ∧ _ ∧ (_ ∨ _ ≤ disk.wholeBytes)) ∨ _
    omega
  · constructor
    · refine fun hexact => absurd hexact (not_readExact fun _ _ hreturned => ?_)
      rw [readBytes, if_neg h.size_ne, if_neg h.blockSize_ne, if_neg (Nat.not_lt.mpr h.span_le),
        readBlocks_overflow h hactual List.length_replicate hapos hale hshort] at hreturned
      cases hreturned
    · rintro (hrange | ⟨-, hone, -⟩)
      · omega
      · rw [hone, UInt64.toNat_one] at hlong
        omega
  · obtain ⟨count, hcount, hread⟩ := readBytes_some h hactual (by decide) (by rw [hspan]; exact (Nat.one_mul _).le)
      (by rw [UInt64.toNat_one, Nat.one_mul]; exact hblock.trans hwhole)
    rw [UInt64.toNat_one, Nat.one_mul] at hcount
    rw [readExact_iff_count (by omega) hread, hcount, ReadsWhole, Nat.succ_mul]
    change _ ↔ _ ∨ (_ ∧ _ ∧ disk.blockStart offset + _ = _)
    constructor
    · intro hsame
      exact .inr ⟨hwrap, hone, by omega⟩
    · rintro (hrange | ⟨-, -, hlast⟩)
      all_goals omega

/-- What stands between a call with something to do and the disk. -/
theorem refused_or_reached (hsize : size ≠ 0) (hblockSize : disk.blockSize ≠ 0)
    (hspan : disk.span offset size ≤ maxSize) : Refused disk offset size ∨ Reached disk offset size := by
  by_cases hrefused : Refused disk offset size
  · exact .inl hrefused
  · have hreached := hrefused
    unfold Refused at hreached
    push Not at hreached
    obtain ⟨hspan_ne, hconnected, hinside⟩ := hreached
    exact .inr ⟨hsize, hblockSize, hspan, Nat.pos_of_ne_zero hspan_ne, by simpa using hconnected, hinside⟩

theorem Reached.not_refused (h : Reached disk offset size) : ¬ Refused disk offset size := by
  rintro (hspan | hconnected | hbehind)
  · exact absurd h.span_pos (by omega)
  · rw [h.connected] at hconnected
    cases hconnected
  · exact absurd h.inside (Nat.not_lt.mpr hbehind)

/-- **Reading.** -/
theorem readBytes_iff (disk : MemoryBackedDisk) (offset size : UInt64) :
    ReadExact disk offset size ↔ ReadCond disk offset size := by
  by_cases hsize : size = 0
  · refine ⟨fun _ => .inl hsize, fun _ => ⟨0, [], by rw [readBytes, if_pos hsize], .inr ?_⟩⟩
    rw [hsize]
    simp
  by_cases hblockSize : disk.blockSize = 0
  · refine ⟨fun h => absurd h (not_readExact fun _ _ hreturned => ?_),
      fun h => absurd hblockSize (h.resolve_left hsize).1⟩
    rw [readBytes, if_neg hsize, if_pos hblockSize] at hreturned
    cases hreturned
  by_cases hspan : maxSize < disk.span offset size
  · refine ⟨fun h => absurd h (not_readExact fun _ _ hreturned => ?_),
      fun h => absurd hspan (Nat.not_lt.mpr (h.resolve_left hsize).2.1)⟩
    rw [readBytes, if_neg hsize, if_neg hblockSize, if_pos hspan] at hreturned
    cases hreturned
  have hspan_le := Nat.not_lt.mp hspan
  rcases refused_or_reached hsize hblockSize hspan_le with hrefused | hreached
  · refine ⟨fun _ => .inr ⟨hblockSize, hspan_le, .inl hrefused⟩, fun _ => readExact_of_error (?_ : _ = Outcome.returned (-1) [])⟩
    rw [readBytes, if_neg hsize, if_neg hblockSize, if_neg hspan, readBlocks_refused hblockSize List.length_replicate hrefused]
    rfl
  · rw [readExact_reached hreached]
    exact ⟨fun h => .inr ⟨hblockSize, hspan_le, .inr h⟩,
      fun h => (h.resolve_left hsize).2.2.resolve_left hreached.not_refused⟩

/-- A range inside the whole blocks is read as it is. -/
theorem readBytes_inside (h : Reached disk offset size)
    (hin : offset.toNat + size.toNat ≤ disk.wholeBytes) :
    disk.readBytes offset size = .returned size.toInt64 ((disk.buffer.drop offset.toNat).take size.toNat) := by
  have hb32 := disk.blockSize.toNat_lt
  have hlength := disk.length_lt
  have hwhole := disk.wholeBytes_le
  rcases reached_cases h with hplain | ⟨-, -, -, hlong, -⟩ | ⟨hwrap, -⟩
  · obtain ⟨count, hcount, hread⟩ := hplain.readBytes h
    have hsame : count = size := UInt64.toNat_inj.mp (by omega)
    rwa [hsame] at hread
  · omega
  · omega

/-! ## Writing -/

/-- The read before a write is needed. -/
def IsPartial (disk : MemoryBackedDisk) (offset size : UInt64) : Prop :=
  offset % disk.bytesPerBlock ≠ 0 ∨ (offset + size) % disk.bytesPerBlock ≠ 0

theorem readPartial_eq (hpiece : IsPartial disk offset size) : disk.readPartial offset size =
    disk.readBlocks (disk.startBlock offset) (disk.numBlocks offset size) (List.replicate (disk.span offset size) 0) :=
  if_pos hpiece

theorem readPartial_whole (hpiece : ¬ IsPartial disk offset size) :
    disk.readPartial offset size = .returned 1 (List.replicate (disk.span offset size) 0) :=
  if_neg hpiece

variable {source : Source}

/-- **When a write is exact.** There is nothing to write; or the disk refuses, and does so before the source is copied
    or the block buffer holds it; or the block buffer holds the source and the range ends with the whole blocks. -/
def WriteCond (disk : MemoryBackedDisk) (offset : UInt64) (source : Source) : Prop :=
  source.size = 0 ∨ (disk.blockSize ≠ 0 ∧ disk.span offset source.size ≤ maxSize ∧
    ((Refused disk offset source.size ∧ (IsPartial disk offset source.size ∨
        offset.toNat % disk.blockSize.toNat + source.size.toNat ≤ disk.span offset source.size)) ∨
      (offset.toNat % disk.blockSize.toNat + source.size.toNat ≤ disk.span offset source.size ∧
        offset.toNat + source.size.toNat ≤ disk.buffer.length / disk.blockSize.toNat * disk.blockSize.toNat)))

/-- **An exact write.** An error, or a count of bytes that are on the disk now, with all others as they were, and that
    are read back. -/
def WriteExact (disk : MemoryBackedDisk) (offset : UInt64) (source : Source) : Prop :=
  ∃ count disk', disk.writeBytes offset source = .returned count disk' ∧ (count.toInt < 0 ∨
    ∃ n ≤ source.bytes.length, count.toInt = (n : Nat) ∧
      disk'.buffer = disk.buffer.take offset.toNat ++ source.bytes.take n ++ disk.buffer.drop (offset.toNat + n) ∧
      disk'.readBytes offset count.toUInt64 = .returned count (source.bytes.take n))

theorem not_writeExact (h : ∀ count disk', disk.writeBytes offset source ≠ .returned count disk') :
    ¬ WriteExact disk offset source := fun ⟨count, disk', hwrite, _⟩ => h count disk' hwrite

theorem writeExact_of_error {disk' : MemoryBackedDisk} (h : disk.writeBytes offset source = .returned (-1) disk') :
    WriteExact disk offset source := ⟨-1, disk', h, .inl (by decide)⟩

/-- A write goes on after the read that it needs. -/
theorem writeBytes_of_buffer (h : source.size ≠ 0) (hblockSize : disk.blockSize ≠ 0)
    (hspan : disk.span offset source.size ≤ maxSize) {blocksRead : Int64} {blockBuffer : List UInt8}
    (hread : disk.readPartial offset source.size = .returned blocksRead blockBuffer) (hpos : ¬ blocksRead ≤ 0)
    (hlength : blockBuffer.length = disk.span offset source.size) :
    disk.writeBytes offset source =
      if offset.toNat % disk.blockSize.toNat + source.bytes.length ≤ disk.span offset source.size then
        match disk.writeBlocks (disk.startBlock offset) (disk.numBlocks offset source.size)
            (blockBuffer.take (offset.toNat % disk.blockSize.toNat) ++ source.bytes ++
              blockBuffer.drop (offset.toNat % disk.blockSize.toNat + source.bytes.length)) with
        | .threw what => .threw what
        | .undefined => .undefined
        | .returned blocksWritten disk' =>
            if blocksWritten ≤ 0 then .returned (-1) disk' else .returned source.size.toInt64 disk'
      else .undefined := by
  have hoffset : (offset % disk.bytesPerBlock).toNat = offset.toNat % disk.blockSize.toNat := by
    rw [UInt64.toNat_mod, bytesPerBlock_toNat]
  unfold writeBytes
  rw [if_neg h, if_neg hblockSize, if_neg (Nat.not_lt.mpr hspan), hread]
  dsimp only
  rw [hoffset, hlength]
  exact if_neg hpos

/-- Bytes merged into a buffer that stands for a stretch of the disk land on the disk. -/
theorem splice_blocks {bytes buf src : List UInt8} {p k n : Nat} (hk : k + src.length ≤ n)
    (hfirst : buf.take k = (bytes.drop p).take k)
    (hlast : buf.drop (k + src.length) = ((bytes.drop p).take n).drop (k + src.length)) :
    bytes.take p ++ (buf.take k ++ src ++ buf.drop (k + src.length)) ++ bytes.drop (p + n) =
      bytes.take (p + k) ++ src ++ bytes.drop (p + k + src.length) := by
  have hhead : bytes.take p ++ (bytes.drop p).take k = bytes.take (p + k) := (List.take_add ..).symm
  have htail : ((bytes.drop p).take n).drop (k + src.length) ++ bytes.drop (p + n) =
      bytes.drop (p + k + src.length) := by
    have hsplit := List.take_append_drop (n - (k + src.length)) (bytes.drop (p + k + src.length))
    rw [List.drop_take, List.drop_drop]
    rw [List.drop_drop] at hsplit
    rw [show p + (k + src.length) = p + k + src.length by omega,
      show p + n = p + k + src.length + (n - (k + src.length)) by omega]
    exact hsplit
  rw [hfirst, hlast, ← hhead, ← htail]
  simp only [List.append_assoc]

/-- The read before a plain write leaves the disk's blocks in the buffer, where they matter. -/
theorem Plain.readPartial (h : Reached disk offset size) (hplain : Plain disk offset size) :
    ∃ blocksRead blockBuffer, disk.readPartial offset size = .returned blocksRead blockBuffer ∧ ¬ blocksRead ≤ 0 ∧
      blockBuffer.length = disk.span offset size ∧
      (offset.toNat + size.toNat ≤ disk.wholeBytes →
        blockBuffer.take (offset.toNat % disk.blockSize.toNat) =
          (disk.buffer.drop (disk.blockStart offset)).take
            (offset.toNat % disk.blockSize.toNat) ∧
        blockBuffer.drop (offset.toNat % disk.blockSize.toNat + size.toNat) =
          ((disk.buffer.drop (disk.blockStart offset)).take
            (disk.span offset size)).drop (offset.toNat % disk.blockSize.toNat + size.toNat)) := by
  have hb := h.blockSize_pos
  obtain ⟨a, hactual, hapos, hmin, hdisk, hin, hend, hfull⟩ := hplain.blocks h
  have hdiv := disk.blockStart_add offset
  have hwhole := disk.wholeBytes_le
  have hlength := disk.length_lt
  by_cases hpiece : IsPartial disk offset size
  · have hle : a.toNat * disk.blockSize.toNat ≤ disk.span offset size := hmin.trans_le (Nat.min_le_left _ _)
    have ha : a.toNat ≤ a.toNat * disk.blockSize.toNat := Nat.le_mul_of_pos_right _ hb
    have hread : ((disk.buffer.drop (disk.blockStart offset)).take
        (a.toNat * disk.blockSize.toNat)).length = a.toNat * disk.blockSize.toNat := by
      rw [List.length_take, List.length_drop]
      omega
    rw [readPartial_eq hpiece, readBlocks_reached h hactual List.length_replicate (by omega), if_pos ⟨hle, hdisk⟩]
    refine ⟨_, _, rfl, not_toInt64_le_zero hapos (by omega), ?_, fun hfits => ?_⟩
    · rw [List.length_append, hread, List.length_drop, List.length_replicate]
      omega
    · -- inside the whole blocks, the disk's blocks fill the buffer
      have hall : a.toNat * disk.blockSize.toNat = disk.span offset size := by
        have := hfull hfits
        omega
      have hpad : (List.replicate (disk.span offset size) (0 : UInt8)).drop (disk.span offset size) = [] :=
        List.drop_eq_nil_of_le (by rw [List.length_replicate])
      rw [hall, hpad, List.append_nil, List.take_take, Nat.min_eq_left (by omega)]
      exact ⟨rfl, rfl⟩
  · rw [readPartial_whole hpiece]
    refine ⟨_, _, rfl, by decide, List.length_replicate, fun hfits => ?_⟩
    unfold IsPartial at hpiece
    push Not at hpiece
    have hfirst : offset.toNat % disk.blockSize.toNat = 0 := by
      have := congrArg UInt64.toNat hpiece.1
      rwa [UInt64.toNat_mod, bytesPerBlock_toNat] at this
    have hlast : (offset.toNat + size.toNat) % disk.blockSize.toNat = 0 := by
      have hsum : offset.toNat + size.toNat < 2 ^ 64 := by omega
      have := congrArg UInt64.toNat hpiece.2
      rwa [UInt64.toNat_mod, bytesPerBlock_toNat, UInt64.toNat_add, Nat.mod_eq_of_lt hsum] at this
    -- the range is the blocks
    have hexact : disk.span offset size = size.toNat := by
      have hdvd : disk.blockSize.toNat ∣
          disk.blockStart offset + disk.span offset size - (offset.toNat + size.toNat) := by
        refine Nat.dvd_sub ?_ (Nat.dvd_of_mod_eq_zero hlast)
        rw [hplain.span]
        exact Nat.dvd_add (Nat.dvd_mul_left _ _) (Nat.dvd_mul_left _ _)
      have := Nat.eq_zero_of_dvd_of_lt hdvd (by omega)
      omega
    rw [hfirst, hexact, List.take_zero, List.take_zero, Nat.zero_add,
      List.drop_eq_nil_of_le (by rw [List.length_replicate]),
      List.drop_eq_nil_of_le (by rw [List.length_take]; exact Nat.min_le_left _ _)]
    exact ⟨rfl, rfl⟩

section
variable (h : Reached disk offset source.size)
include h

/-- **A plain write** returns the size of the source; what it stores ends with the whole blocks. -/
theorem Plain.writeBytes (hplain : Plain disk offset source.size) :
    ∃ disk', disk.writeBytes offset source = .returned source.size.toInt64 disk' ∧
      disk'.blockSize = disk.blockSize ∧ disk'.connected = disk.connected ∧
      disk'.buffer.length = disk.buffer.length ∧
      (offset.toNat + source.size.toNat ≤ disk.wholeBytes →
        disk'.buffer = disk.buffer.take offset.toNat ++ source.bytes ++
          disk.buffer.drop (offset.toNat + source.bytes.length)) := by
  have hb := h.blockSize_pos
  have hlength := disk.length_lt
  obtain ⟨a, hactual, hapos, hmin, hdisk, hin, hend, hfull⟩ := hplain.blocks h
  obtain ⟨blocksRead, blockBuffer, hread, hpos, hbuffer, hcontent⟩ := hplain.readPartial h
  have hdiv := disk.blockStart_add offset
  have hle : a.toNat * disk.blockSize.toNat ≤ disk.span offset source.size := hmin.trans_le (Nat.min_le_left _ _)
  have ha : a.toNat ≤ a.toNat * disk.blockSize.toNat := Nat.le_mul_of_pos_right _ hb
  rw [source.size_toNat] at hin hcontent hfull ⊢
  rw [writeBytes_of_buffer h.size_ne h.blockSize_ne h.span_le hread hpos hbuffer, if_pos hin]
  have hmerged : (blockBuffer.take (offset.toNat % disk.blockSize.toNat) ++ source.bytes ++
      blockBuffer.drop (offset.toNat % disk.blockSize.toNat + source.bytes.length)).length =
        disk.span offset source.size := by
    simp only [List.length_append, List.length_take, List.length_drop]
    omega
  obtain ⟨disk', hwrite, hsize', hconnected', hbuffer'⟩ := writeBlocks_of_actual (h.ne_nil hmerged) h.blockSize_ne hactual
    (disk.startBlock_mul_toNat offset) (blocks_toNat (by omega)) (hmerged ▸ hle) hdisk
  rw [hwrite]
  dsimp only
  rw [if_neg (not_toInt64_le_zero hapos (by omega))]
  refine ⟨disk', rfl, hsize', hconnected', ?_, fun hfits => ?_⟩
  · rw [hbuffer']
    simp only [List.length_append, List.length_take, List.length_drop]
    omega
  · obtain ⟨hfirst, hlast⟩ := hcontent hfits
    have hall : a.toNat * disk.blockSize.toNat = disk.span offset source.size := by
      have := hfull hfits
      omega
    rw [hbuffer', hall, List.take_of_length_le hmerged.le, splice_blocks hin hfirst hlast, hdiv]

/-- A write whose source does not fit in the block buffer. -/
theorem writeBytes_overflow
    (hshort : disk.span offset source.size < offset.toNat % disk.blockSize.toNat + source.size.toNat)
    {outcome : Outcome (List UInt8)} (hread : disk.readBlocks (disk.startBlock offset)
      (disk.numBlocks offset source.size) (List.replicate (disk.span offset source.size) 0) = outcome)
    (houtcome : outcome = .undefined ∨ ∃ blocksRead blockBuffer, outcome = .returned blocksRead blockBuffer ∧
      ¬ blocksRead ≤ 0 ∧ blockBuffer.length = disk.span offset source.size) : ¬ WriteExact disk offset source := by
  refine not_writeExact fun _ _ hreturned => ?_
  have hundefined {blocksRead blockBuffer} (hread : disk.readPartial offset source.size = .returned blocksRead blockBuffer)
      (hpos : ¬ blocksRead ≤ 0) (hbuffer : blockBuffer.length = disk.span offset source.size) : False := by
    rw [writeBytes_of_buffer h.size_ne h.blockSize_ne h.span_le hread hpos hbuffer,
      if_neg (Nat.not_le.mpr (source.size_toNat ▸ hshort))] at hreturned
    cases hreturned
  by_cases hpiece : IsPartial disk offset source.size
  · have hpartial := (readPartial_eq hpiece).trans hread
    rcases houtcome with rfl | ⟨blocksRead, blockBuffer, rfl, hpos, hbuffer⟩
    · rw [writeBytes, if_neg h.size_ne, if_neg h.blockSize_ne, if_neg (Nat.not_lt.mpr h.span_le), hpartial] at hreturned
      cases hreturned
    · exact hundefined hpartial hpos hbuffer
  · exact hundefined (readPartial_whole hpiece) (by decide) List.length_replicate

/-- A write whose blocks are those of its bytes keeps them all if the last one lies on the disk's whole blocks. -/
theorem Plain.writeExact (hplain : Plain disk offset source.size) : WriteExact disk offset source ↔
      offset.toNat % disk.blockSize.toNat + source.size.toNat ≤ disk.span offset source.size ∧
        offset.toNat + source.size.toNat ≤ disk.wholeBytes := by
  have hlength := disk.length_lt
  obtain ⟨-, -, -, -, -, hin, -, -⟩ := hplain.blocks h
  obtain ⟨disk', hwrite, hsize', hconnected', hlength', hbuffer'⟩ := hplain.writeBytes h
  have hsmall : source.size.toNat < 2 ^ 63 := by
    have := h.span_le
    unfold maxSize at this
    omega
  have hspan' : disk'.span offset source.size = disk.span offset source.size := by
    rw [span_eq, numBlocks_toNat, hsize', ← numBlocks_toNat, ← span_eq]
  have hwhole' : disk'.wholeBytes = disk.wholeBytes := by
    rw [wholeBytes, hsize', hlength', wholeBytes]
  have hreached' : Reached disk' offset source.size :=
    ⟨h.size_ne, hsize' ▸ h.blockSize_ne, hspan' ▸ h.span_le, hspan' ▸ h.span_pos, hconnected'.trans h.connected,
      by rw [hsize', hlength']; exact h.inside⟩
  constructor
  · -- what was written is not read back from behind the last whole block
    rintro ⟨count, disk'', hwrite', hexact⟩
    obtain ⟨rfl, rfl⟩ := Outcome.returned.inj (hwrite.symm.trans hwrite')
    rw [toInt_toInt64 hsmall] at hexact
    obtain ⟨n, -, hn, hbuffer, hback⟩ := hexact.resolve_left (by omega)
    refine ⟨hin, ?_⟩
    by_contra hbehind
    -- what is read back ends with the whole blocks, before the count that was returned
    have hplain' : Plain disk' offset source.size := by
      rcases reached_cases hreached' with hplain' | ⟨-, hsource, -⟩ | ⟨hwrap, -⟩
      · exact hplain'
      · rw [hspan', hsize'] at hsource
        omega
      · have := hplain.range
        omega
    obtain ⟨count, hcount, hread⟩ := hplain'.readBytes hreached'
    rw [UInt64.toUInt64_toInt64, hread] at hback
    have hcounts := congrArg Int64.toInt (Outcome.returned.inj hback).1
    rw [hwhole'] at hcount
    rw [toInt_toInt64 (by omega), toInt_toInt64 hsmall] at hcounts
    have hpos := h.size_pos
    omega
  · rintro ⟨-, hfits⟩
    have hbuffer := hbuffer' hfits
    have htake : source.bytes.take source.bytes.length = source.bytes := List.take_length
    refine ⟨_, disk', hwrite, .inr ⟨source.bytes.length, Nat.le_refl _, ?_, by rw [htake]; exact hbuffer, ?_⟩⟩
    · rw [toInt_toInt64 hsmall, source.size_toNat]
    · rw [UInt64.toUInt64_toInt64, readBytes_inside hreached' (by rwa [hwhole']), htake,
        source.size_toNat, hbuffer]
      have hwhole := disk.wholeBytes_le
      have hhead : (disk.buffer.take offset.toNat).length = offset.toNat := by
        rw [List.length_take]
        omega
      rw [List.append_assoc, List.drop_left' hhead, List.take_left' rfl]

/-- **A write that reaches the disk.** -/
theorem writeExact_reached : WriteExact disk offset source ↔
    offset.toNat % disk.blockSize.toNat + source.size.toNat ≤ disk.span offset source.size ∧
      offset.toNat + source.size.toNat ≤ disk.wholeBytes := by
  have hblock := h.block_le
  have hstart := h.lt_block offset
  have hdiv := disk.blockStart_add offset
  have hwhole := disk.wholeBytes_le
  rcases reached_cases h with hplain | ⟨hshort, hsource, -, -, a, hactual, hapos, hale⟩ | ⟨hwrap, hone, hspan, hactual⟩
  · exact hplain.writeExact h
  · -- the number of bytes in the blocks has wrapped around: the buffer is too small
    exact iff_of_false (writeBytes_overflow h hsource
      (readBlocks_overflow h hactual List.length_replicate hapos hale hshort) (.inl rfl)) (by omega)
  · -- the range has wrapped around into its first block
    have hlength := disk.length_lt
    have hb32 := disk.blockSize.toNat_lt
    refine iff_of_false (writeBytes_overflow h (by omega) ((readBlocks_reached h hactual List.length_replicate
      (by rw [UInt64.toNat_one]; omega)).trans (if_pos ?_)) (.inr ⟨_, _, rfl, by decide, ?_⟩)) (by omega)
    · rw [UInt64.toNat_one, Nat.one_mul]
      exact ⟨hspan.ge, by omega⟩
    · simp only [List.length_append, List.length_take, List.length_drop, List.length_replicate, UInt64.toNat_one,
        Nat.one_mul]
      omega

end

/-- **A write that is refused.** -/
theorem writeExact_refused (hsize : source.size ≠ 0) (hblockSize : disk.blockSize ≠ 0)
    (hspan : disk.span offset source.size ≤ maxSize) (h : Refused disk offset source.size) :
    WriteExact disk offset source ↔ IsPartial disk offset source.size ∨
      offset.toNat % disk.blockSize.toNat + source.size.toNat ≤ disk.span offset source.size := by
  by_cases hpiece : IsPartial disk offset source.size
  · refine ⟨fun _ => .inl hpiece, fun _ => writeExact_of_error (?_ : _ = Outcome.returned (-1) disk)⟩
    rw [writeBytes, if_neg hsize, if_neg hblockSize, if_neg (Nat.not_lt.mpr hspan), readPartial_eq hpiece,
      readBlocks_refused hblockSize List.length_replicate h]
    rfl
  · have hwrite := writeBytes_of_buffer hsize hblockSize hspan (readPartial_whole hpiece) (by decide)
      List.length_replicate
    rw [source.size_toNat]
    by_cases hfits : offset.toNat % disk.blockSize.toNat + source.bytes.length ≤ disk.span offset source.size
    · refine ⟨fun _ => .inr hfits, fun _ => writeExact_of_error (?_ : _ = Outcome.returned (-1) disk)⟩
      have hpos : 0 < source.bytes.length := by
        rw [← source.size_toNat]
        exact Nat.pos_of_ne_zero fun hzero => hsize (UInt64.toNat_inj.mp hzero)
      rw [hwrite, if_pos hfits, writeBlocks, if_neg, if_neg (not_divides_zero hblockSize),
        actualBlockCount_refused (h.resolve_left (by omega))]
      · rfl
      · intro hnil
        have := congrArg List.length hnil
        simp only [List.length_append, List.length_nil] at this
        omega
    · rw [if_neg hfits] at hwrite
      refine ⟨fun ⟨_, _, hreturned, _⟩ => ?_, fun hcond => absurd hfits (not_not.mpr (hcond.resolve_left hpiece))⟩
      rw [hwrite] at hreturned
      cases hreturned

/-- **Writing.** -/
theorem writeBytes_iff (disk : MemoryBackedDisk) (offset : UInt64) (source : Source) :
    WriteExact disk offset source ↔ WriteCond disk offset source := by
  by_cases hsize : source.size = 0
  · refine ⟨fun _ => .inl hsize, fun _ => ⟨0, disk, by rw [writeBytes, if_pos hsize], .inr ⟨0, Nat.zero_le _, rfl, ?_, ?_⟩⟩⟩
    · rw [List.take_zero, List.append_nil, Nat.add_zero, List.take_append_drop]
    · rw [List.take_zero]
      exact if_pos rfl
  by_cases hblockSize : disk.blockSize = 0
  · refine ⟨fun h => absurd h (not_writeExact fun _ _ hreturned => ?_),
      fun h => absurd hblockSize (h.resolve_left hsize).1⟩
    rw [writeBytes, if_neg hsize, if_pos hblockSize] at hreturned
    cases hreturned
  by_cases hspan : maxSize < disk.span offset source.size
  · refine ⟨fun h => absurd h (not_writeExact fun _ _ hreturned => ?_),
      fun h => absurd hspan (Nat.not_lt.mpr (h.resolve_left hsize).2.1)⟩
    rw [writeBytes, if_neg hsize, if_neg hblockSize, if_pos hspan] at hreturned
    cases hreturned
  have hspan_le := Nat.not_lt.mp hspan
  rcases refused_or_reached hsize hblockSize hspan_le with hrefused | hreached
  · rw [writeExact_refused hsize hblockSize hspan_le hrefused]
    constructor
    · exact fun h => .inr ⟨hblockSize, hspan_le, .inl ⟨hrefused, h⟩⟩
    · intro h
      rcases (h.resolve_left hsize).2.2 with ⟨-, hcond⟩ | ⟨hfits, -⟩
      · exact hcond
      · exact .inr hfits
  · rw [writeExact_reached hreached]
    exact ⟨fun h => .inr ⟨hblockSize, hspan_le, .inr h⟩,
      fun h => (h.resolve_left hsize).2.2.resolve_left fun hrefused => hreached.not_refused hrefused.1⟩

end Disk

end MemoryBackedDisk

end GuideXOS.Storage
