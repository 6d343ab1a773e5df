import GuideXOS.Storage.MemoryDevices

/-!
# `DeviceReads` — what a device copies, whatever the buffer

A device decides by its own state what it copies for a request; the buffer only has to be long enough. `transfer` is
that decision, and `Transfer.Fits` says whether a buffer has room for it.
-/

namespace GuideXOS.Storage
open Lib.Blocks

/-- What a device does for a request: nothing, with a result that is no count; a copy; or a copy from outside its store
or a division by zero. -/
inductive Transfer
  | refuses (result : Int64)
  | copies (result : Int64) (piece : List UInt8)
  | undefined

namespace Transfer

/-- The request served into a buffer. -/
def into (buffer : List UInt8) : Transfer → Outcome (List UInt8)
  | .refuses result => .returned result buffer
  | .copies result piece =>
      if piece.length ≤ buffer.length then .returned result (piece ++ buffer.drop piece.length) else .undefined
  | .undefined => .undefined

/-- A buffer of so many bytes has room for what is copied. -/
def Fits (room : Nat) : Transfer → Prop
  | .refuses _ => True
  | .copies _ piece => piece.length ≤ room
  | .undefined => False

instance (room : Nat) (t : Transfer) : Decidable (t.Fits room) :=
  match t with
  | .refuses _ => isTrue trivial
  | .copies _ piece => inferInstanceAs (Decidable (piece.length ≤ room))
  | .undefined => isFalse id

/-- The result of the call. -/
def result : Transfer → Int64
  | .refuses result => result
  | .copies result _ => result
  | .undefined => 0

/-- What the call leaves in a buffer that has room. -/
def left (buffer : List UInt8) : Transfer → List UInt8
  | .copies _ piece => piece ++ buffer.drop piece.length
  | _ => buffer

variable {buffer : List UInt8} {t : Transfer}

/-- **A call is defined** if and only if the buffer has room. -/
theorem into_of_fits (h : t.Fits buffer.length) : t.into buffer = .returned t.result (t.left buffer) := by
  cases t with
  | refuses result => rfl
  | copies result piece => exact if_pos h
  | undefined => exact h.elim

theorem into_of_not_fits (h : ¬ t.Fits buffer.length) : t.into buffer = .undefined := by
  cases t with
  | refuses result => exact absurd trivial h
  | copies result piece => exact if_neg h
  | undefined => rfl

/-- The buffer keeps its length. -/
theorem length_left (h : t.Fits buffer.length) : (t.left buffer).length = buffer.length := by
  cases t with
  | refuses result => rfl
  | undefined => rfl
  | copies result piece =>
      have hle : piece.length ≤ buffer.length := h
      rw [left, List.length_append, List.length_drop]
      omega

end Transfer

/-- A device whose transfers do not depend on the buffer. A null pointer is no buffer. -/
class PlannedReads (δ : Type _) [IStorageDevice δ] [ByteStore δ] where
  transfer : δ → UInt64 → UInt64 → Transfer
  readBlocks_nil : ∀ (d : δ) n count, IStorageDevice.readBlocks d n count [] = .returned (-1) []
  readBlocks_eq : ∀ (d : δ) n count {buffer : List UInt8}, buffer ≠ [] →
    IStorageDevice.readBlocks d n count buffer = (transfer d n count).into buffer
  refused_le : ∀ (d : δ) n count {result : Int64}, transfer d n count = .refuses result → result.toInt ≤ 0

export PlannedReads (transfer)

/-! ## The devices -/

/-- A copy from inside the store. -/
def copyFrom (store : List UInt8) (offset size : Nat) (result : Int64) : Transfer :=
  if offset + size ≤ store.length then .copies result ((store.drop offset).take size) else .undefined

theorem copyFrom_into (store buffer : List UInt8) (offset size : Nat) (result : Int64) :
    (copyFrom store offset size result).into buffer =
      if size ≤ buffer.length ∧ offset + size ≤ store.length then
        .returned result ((store.drop offset).take size ++ buffer.drop size)
      else .undefined := by
  unfold copyFrom
  by_cases hinside : offset + size ≤ store.length
  · have hlength : ((store.drop offset).take size).length = size := by
      rw [List.length_take, List.length_drop]
      omega
    rw [if_pos hinside, Transfer.into, hlength]
    simp [hinside]
  · rw [if_neg hinside, if_neg fun hboth => hinside hboth.2]
    rfl

theorem copyFrom_ne_refuses {store : List UInt8} {offset size : Nat} {result refused : Int64} :
    copyFrom store offset size result ≠ .refuses refused := by
  unfold copyFrom
  split <;> simp

def VirtualBlockDevice.transfer (device : VirtualBlockDevice) (n count : UInt64) : Transfer :=
  if !device.connected ∨ count = 0 then .refuses (-1)
  else if !device.validateAccess (n * device.sectorSize.toUInt64) (count * device.sectorSize.toUInt64) then .refuses (-1)
  else copyFrom device.memoryBuffer (n * device.sectorSize.toUInt64).toNat (count * device.sectorSize.toUInt64).toNat
    count.toInt64

instance : PlannedReads VirtualBlockDevice where
  transfer := VirtualBlockDevice.transfer
  readBlocks_nil device n count := if_pos (.inr (.inl rfl))
  readBlocks_eq device n count buffer hbuffer := by
    show device.readSectors n count buffer = (device.transfer n count).into buffer
    unfold VirtualBlockDevice.readSectors VirtualBlockDevice.transfer
    by_cases hstop : (!device.connected) = true ∨ count = 0
    · rw [if_pos hstop, if_pos (hstop.imp_right .inr)]
      rfl
    · have hgo : ¬ ((!device.connected) = true ∨ buffer = [] ∨ count = 0) := by
        rintro (hoff | hnil | hzero)
        · exact hstop (.inl hoff)
        · exact hbuffer hnil
        · exact hstop (.inr hzero)
      rw [if_neg hstop, if_neg hgo]
      dsimp only
      split
      · rfl
      · rw [copyFrom_into]
  refused_le device n count result h := by
    have h' : device.transfer n count = .refuses result := h
    unfold VirtualBlockDevice.transfer at h'
    split at h'
    · cases h'
      decide
    split at h'
    · cases h'
      decide
    · exact absurd h' copyFrom_ne_refuses

def MemoryBackedDisk.transfer (disk : MemoryBackedDisk) (n count : UInt64) : Transfer :=
  if disk.connected ∧ disk.blockSize = 0 then .undefined
  else
    match disk.actualBlockCount n count with
    | none => .refuses (-1)
    | some actual =>
        copyFrom disk.buffer (n * disk.bytesPerBlock).toNat (actual * disk.bytesPerBlock).toNat actual.toInt64

instance : PlannedReads MemoryBackedDisk where
  transfer := MemoryBackedDisk.transfer
  readBlocks_nil disk n count := by
    show disk.readBlocks n count [] = _
    exact if_pos rfl
  readBlocks_eq disk n count buffer hbuffer := by
    show disk.readBlocks n count buffer = (disk.transfer n count).into buffer
    unfold MemoryBackedDisk.readBlocks MemoryBackedDisk.transfer
    rw [if_neg hbuffer]
    split
    · rfl
    cases disk.actualBlockCount n count with
    | none => rfl
    | some actual =>
        dsimp only
        rw [copyFrom_into]
  refused_le disk n count result h := by
    have h' : disk.transfer n count = .refuses result := h
    unfold MemoryBackedDisk.transfer at h'
    split at h'
    · cases h'
    split at h'
    · cases h'
      decide
    · exact absurd h' copyFrom_ne_refuses

def InitramfsDevice.transfer (device : InitramfsDevice) (n count : UInt64) : Transfer :=
  if !device.connected then .refuses (-1)
  else if device.size ≤ n * device.blockSize.toUInt64 then .refuses 0
  else
    let (byteCount, blockCount) := device.clamp (n * device.blockSize.toUInt64) (count * device.blockSize.toUInt64) count
    copyFrom device.buffer (n * device.blockSize.toUInt64).toNat byteCount.toNat blockCount.toInt64

instance : PlannedReads InitramfsDevice where
  transfer := InitramfsDevice.transfer
  readBlocks_nil device n count := by
    show device.readBlocks n count [] = _
    unfold InitramfsDevice.readBlocks
    split
    · rfl
    · exact if_pos rfl
  readBlocks_eq device n count buffer hbuffer := by
    show device.readBlocks n count buffer = (device.transfer n count).into buffer
    unfold InitramfsDevice.readBlocks InitramfsDevice.transfer
    split
    · rfl
    dsimp only
    split
    · rfl
    · rw [copyFrom_into]
  refused_le device n count result h := by
    have h' : device.transfer n count = .refuses result := h
    unfold InitramfsDevice.transfer at h'
    split at h'
    · cases h'
      decide
    dsimp only at h'
    split at h'
    · cases h'
      decide
    · exact absurd h' copyFrom_ne_refuses

end GuideXOS.Storage
