import GuideXOS.Lib.Stretches

/-!
# `Memory` — the guest memory interface

Guest memory is reached through an interface that several implementations share. `IMemory` is that
interface as far as the processor uses it: raw reads and writes, which throw out of range, and the total
size. A write never changes the size (`LawfulIMemory`). `FlatMemory` is the plain implementation, a byte
array without page tables or devices; there every byte stands for itself (`BytewiseMemory`).
-/

namespace GuideXOS.Core
open Lib.Words Lib.Stretches

class IMemory (M : Type _) where
  read : M → UInt64 → Nat → Except String (List UInt8)
  write : M → UInt64 → List UInt8 → Except String M
  getTotalSize : M → UInt64
  /-- Whether the page tables let a range be written; `none` where the implementation cannot tell. -/
  writePermission : M → UInt64 → UInt64 → Option Bool

export IMemory (getTotalSize)

class LawfulIMemory (M : Type _) [IMemory M] : Prop where
  getTotalSize_write : ∀ {m m' : M} {address : UInt64} {src : List UInt8},
    IMemory.write m address src = .ok m' → getTotalSize m' = getTotalSize m

/-! ## Bytes by themselves -/

section Bytes
variable {M : Type _} [IMemory M]

def readByte (m : M) (address : UInt64) : Option UInt8 := (IMemory.read m address 1).toOption.bind List.head?

def readEach (m : M) (addresses : List UInt64) : Option (List UInt8) := addresses.mapM (readByte m)

def writeEach (m : M) : List (UInt64 × UInt8) → Option M
  | [] => some m
  | e :: rest => (IMemory.write m e.1 [e.2]).toOption.bind fun m' => writeEach m' rest

theorem writeEach_append (m : M) (l l' : List (UInt64 × UInt8)) :
    writeEach m (l ++ l') = (writeEach m l).bind fun m' => writeEach m' l' := by
  induction l generalizing m with
  | nil => rfl
  | cons e l ih =>
      rw [List.cons_append, writeEach, writeEach]
      cases (IMemory.write m e.1 [e.2]).toOption with
      | none => rfl
      | some m' => exact ih m'

theorem readEach_append (m : M) (l l' : List UInt64) :
    readEach m (l ++ l') = (readEach m l).bind fun bytes => (readEach m l').map (bytes ++ ·) := by
  unfold readEach
  rw [List.mapM_append]
  cases l.mapM (readByte m) with
  | none => rfl
  | some bytes => cases l'.mapM (readByte m) <;> simp

end Bytes

/-- A transfer does what the transfers of its bytes do, as long as it does not run past the last address. -/
class BytewiseMemory (M : Type _) [IMemory M] : Prop where
  read_eq : ∀ (m : M) {address : UInt64} {size : Nat}, address.toNat + size ≤ 2 ^ 64 →
    (IMemory.read m address size).toOption = readEach m (consecutive address size)
  write_eq : ∀ (m : M) {address : UInt64} {src : List UInt8}, address.toNat + src.length ≤ 2 ^ 64 →
    (IMemory.write m address src).toOption = writeEach m ((consecutive address src.length).zip src)

/-! ## Flat memory -/

structure FlatMemory where
  data : List UInt8

namespace FlatMemory

variable (m : FlatMemory) {address : UInt64}

/-- **`checkBounds`.** -/
def checkBounds (address : UInt64) (size : Nat) : Except String Unit :=
  if m.data.length ≤ address.toNat then .error "Memory address out of bounds"
  else if m.data.length - address.toNat < size then .error "Memory access exceeds bounds"
  else .ok ()

def read (address : UInt64) (size : Nat) : Except String (List UInt8) :=
  if size = 0 then .ok []
  else (m.checkBounds address size).map fun _ => (m.data.drop address.toNat).take size

def write (address : UInt64) (src : List UInt8) : Except String FlatMemory :=
  if src.length = 0 then .ok m
  else (m.checkBounds address src.length).map fun _ =>
    ⟨m.data.take address.toNat ++ src ++ m.data.drop (address.toNat + src.length)⟩

instance : IMemory FlatMemory where
  read := read
  write := write
  getTotalSize m := UInt64.ofNat m.data.length
  writePermission _ _ _ := none

theorem length_write {m m' : FlatMemory} {src : List UInt8} (h : m.write address src = .ok m') :
    m'.data.length = m.data.length := by
  unfold write at h
  split at h
  · obtain rfl : m = m' := Except.ok.inj h
    rfl
  · unfold checkBounds at h
    split at h
    · cases h
    · split at h
      · cases h
      · obtain rfl := Except.ok.inj h
        simp
        omega

instance : LawfulIMemory FlatMemory where
  getTotalSize_write h := congrArg UInt64.ofNat (length_write h)

theorem read_toOption (address : UInt64) (size : Nat) :
    (m.read address size).toOption =
      if size = 0 ∨ address.toNat + size ≤ m.data.length then some ((m.data.drop address.toNat).take size)
      else none := by
  unfold read checkBounds
  by_cases hzero : size = 0
  · simp [hzero, Except.toOption]
  · by_cases hin : address.toNat + size ≤ m.data.length
    · have hlow : ¬ m.data.length ≤ address.toNat := by omega
      have hhigh : ¬ m.data.length - address.toNat < size := by omega
      simp [hzero, hin, hlow, hhigh, Except.map, Except.toOption]
    · by_cases hlow : m.data.length ≤ address.toNat
      · simp [hzero, hin, hlow, Except.map, Except.toOption]
      · have hhigh : m.data.length - address.toNat < size := by omega
        simp [hzero, hin, hlow, hhigh, Except.map, Except.toOption]

theorem write_toOption (address : UInt64) (src : List UInt8) :
    (m.write address src).toOption =
      if src = [] ∨ address.toNat + src.length ≤ m.data.length then
        some ⟨m.data.take address.toNat ++ src ++ m.data.drop (address.toNat + src.length)⟩
      else none := by
  unfold write checkBounds
  cases src with
  | nil => simp [Except.toOption]
  | cons b bs =>
      have hlen : ¬ (b :: bs).length = 0 := Nat.succ_ne_zero _
      by_cases hin : address.toNat + (b :: bs).length ≤ m.data.length
      · have hlow : ¬ m.data.length ≤ address.toNat := by
          rw [List.length_cons] at hin
          omega
        have hhigh : ¬ m.data.length - address.toNat < (b :: bs).length := by omega
        rw [if_neg hlen, if_neg hlow, if_neg hhigh, if_pos (.inr hin)]
        rfl
      · by_cases hlow : m.data.length ≤ address.toNat
        · rw [if_neg hlen, if_pos hlow, if_neg (by simpa using hin)]
          rfl
        · have hhigh : m.data.length - address.toNat < (b :: bs).length := by omega
          rw [if_neg hlen, if_neg hlow, if_pos hhigh, if_neg (by simpa using hin)]
          rfl

/-- The address after one that is not the last of a transfer. -/
theorem succ_toNat {n : Nat} (h : address.toNat + (n + 1) ≤ 2 ^ 64) (hn : 0 < n) :
    (address + 1).toNat = address.toNat + 1 := by
  rw [UInt64.toNat_add, UInt64.toNat_one, Nat.mod_eq_of_lt (by omega)]

theorem readByte_eq (address : UInt64) : readByte m address = m.data[address.toNat]? := by
  show (m.read address 1).toOption.bind List.head? = _
  rw [read_toOption]
  by_cases hin : address.toNat < m.data.length
  · rw [if_pos (.inr hin), List.drop_eq_getElem_cons hin, List.getElem?_eq_getElem hin]
    rfl
  · have hout : ¬ (1 = 0 ∨ address.toNat + 1 ≤ m.data.length) := by omega
    rw [if_neg hout, List.getElem?_eq_none (Nat.le_of_not_lt hin)]
    rfl

theorem readEach_consecutive {size : Nat} (h : address.toNat + size ≤ 2 ^ 64) :
    readEach m (consecutive address size) =
      if size = 0 ∨ address.toNat + size ≤ m.data.length then some ((m.data.drop address.toNat).take size)
      else none := by
  induction size generalizing address with
  | zero => simp [consecutive, readEach]
  | succ n ih =>
      have hnext : (address + 1).toNat + n ≤ 2 ^ 64 := by
        rcases Nat.eq_zero_or_pos n with rfl | hn
        · exact (address + 1).toNat_lt.le
        · rw [succ_toNat h hn]
          omega
      rw [consecutive, readEach, List.mapM_cons, readByte_eq, ← readEach, ih hnext]
      by_cases hlow : address.toNat < m.data.length
      · rw [List.getElem?_eq_getElem hlow, List.drop_eq_getElem_cons hlow, List.take_succ_cons]
        rcases Nat.eq_zero_or_pos n with rfl | hn
        · simp [Nat.succ_le_of_lt hlow]
        · have hiff : address.toNat + 1 + n ≤ m.data.length ↔ address.toNat + (n + 1) ≤ m.data.length := by omega
          rw [succ_toNat h hn]
          by_cases hin : address.toNat + (n + 1) ≤ m.data.length
          · simp [hin, hiff]
          · simp [hin, hiff, hn.ne']
      · have hout : ¬ address.toNat + (n + 1) ≤ m.data.length := by omega
        simp [hout, List.getElem?_eq_none (Nat.le_of_not_lt hlow)]

theorem writeEach_consecutive {src : List UInt8} (h : address.toNat + src.length ≤ 2 ^ 64) :
    writeEach m ((consecutive address src.length).zip src) =
      if src = [] ∨ address.toNat + src.length ≤ m.data.length then
        some ⟨m.data.take address.toNat ++ src ++ m.data.drop (address.toNat + src.length)⟩
      else none := by
  induction src generalizing address m with
  | nil => simp [consecutive, writeEach]
  | cons b bs ih =>
      rw [List.length_cons, consecutive, List.zip_cons_cons, writeEach]
      show (m.write address [b]).toOption.bind _ = _
      rw [write_toOption, List.length_singleton]
      by_cases hlow : address.toNat + 1 ≤ m.data.length
      · rw [if_pos (.inr hlow), Option.bind_some]
        rcases bs.eq_nil_or_concat with rfl | ⟨_, _, hbs⟩
        · simp [consecutive, writeEach, hlow]
        · have hn : 0 < bs.length := by
            rw [hbs]
            simp
          have hsucc := succ_toNat (n := bs.length) h hn
          have hne : bs ≠ [] := List.length_pos_iff.mp hn
          rw [List.length_cons] at h
          rw [ih _ (by rw [hsucc]; omega), hsucc]
          -- the byte just written is the last one before the rest
          have htake : (m.data.take address.toNat ++ [b] ++ m.data.drop (address.toNat + 1)).take (address.toNat + 1) =
              m.data.take address.toNat ++ [b] := by
            rw [List.take_append_of_le_length (by simp; omega), List.take_of_length_le (by simp)]
          have hdrop : (m.data.take address.toNat ++ [b] ++ m.data.drop (address.toNat + 1)).drop
              (address.toNat + 1 + bs.length) = m.data.drop (address.toNat + (bs.length + 1)) := by
            rw [List.drop_append, List.drop_eq_nil_of_le (by simp; omega), List.nil_append, List.drop_drop]
            congr 1
            simp
            omega
          have hlength : (m.data.take address.toNat ++ [b] ++ m.data.drop (address.toNat + 1)).length =
              m.data.length := by
            simp
            omega
          have hsum : address.toNat + 1 + bs.length = address.toNat + (bs.length + 1) := by omega
          rw [htake, hdrop, hlength, hsum]
          simp [hne]
      · have hout : ¬ address.toNat + (bs.length + 1) ≤ m.data.length := by omega
        simp [hlow, hout]

instance : BytewiseMemory FlatMemory where
  read_eq m _ _ h := (read_toOption m _ _).trans (readEach_consecutive m h).symm
  write_eq m _ _ h := (write_toOption m _ _).trans (writeEach_consecutive m h).symm

end FlatMemory

/-! ## Memory as a function -/

/-- Flat memory of `size` bytes, given by what each address holds. -/
structure SparseMemory where
  size : UInt64
  byte : Nat → UInt8

namespace SparseMemory

variable (m : SparseMemory)

def inBounds (address : UInt64) (size : Nat) : Bool := address.toNat + size ≤ m.size.toNat

def read (address : UInt64) (size : Nat) : Except String (List UInt8) :=
  if m.inBounds address size then .ok ((List.range size).map fun i => m.byte (address.toNat + i))
  else .error "Memory access exceeds bounds"

def write (address : UInt64) (src : List UInt8) : Except String SparseMemory :=
  if m.inBounds address src.length then
    .ok { m with byte := fun x =>
      if address.toNat ≤ x ∧ x < address.toNat + src.length then src.getD (x - address.toNat) 0 else m.byte x }
  else .error "Memory access exceeds bounds"

instance : IMemory SparseMemory where
  read := read
  write := write
  getTotalSize m := m.size
  writePermission _ _ _ := none

instance : LawfulIMemory SparseMemory where
  getTotalSize_write {m m' address src} h := by
    change m.write address src = .ok m' at h
    unfold write at h
    split at h
    · obtain rfl := Except.ok.inj h
      rfl
    · cases h

end SparseMemory

/-! ## Access from firmware services -/

section Guest
variable {M : Type _} [IMemory M]

def readGuestU64 (memory : M) (address : UInt64) : Option UInt64 :=
  (IMemory.read memory address 8).toOption.map wordOfBytes

def writeGuestU64 (memory : M) (address value : UInt64) : Option M :=
  (IMemory.write memory address (bytesOfWord 8 value)).toOption

/-- **`guestRangeWithinReportedMemory`**; `none` where the memory reports no size. -/
def guestRangeWithinReportedMemory (memory : M) (address size : UInt64) : Option Bool :=
  let totalSize := getTotalSize memory
  if totalSize = 0 then none
  else if size = 0 then some (address ≤ totalSize)
  else some (address < totalSize && size ≤ totalSize - address)

end Guest

end GuideXOS.Core
