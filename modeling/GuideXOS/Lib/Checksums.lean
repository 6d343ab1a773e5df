import GuideXOS.Lib.Patches

/-!
# `Checksums` — tables whose bytes sum to zero

A table is laid out field by field over zeros, and one byte of it is then set so that all bytes sum to zero.
`part_laidOut` reads a field back; `byteSum_balance` is the zero sum. A validator that asks for the zero sum notices
every change of a single byte (`detectsChanges_of_sum`), because the sum changes by as much as the byte.
-/

namespace Lib.Checksums
open Patches Words

/-! ## Sums of bytes -/

/-- The sum of the bytes, modulo 256. -/
def byteSum (bytes : List UInt8) : UInt8 := bytes.foldl (fun sum byte => sum + byte) 0

theorem foldl_add (bytes : List UInt8) (sum : UInt8) :
    bytes.foldl (fun sum byte => sum + byte) sum = sum + byteSum bytes := by
  induction bytes generalizing sum with
  | nil => exact (UInt8.add_zero sum).symm
  | cons byte bytes ih =>
      rw [byteSum, List.foldl_cons, List.foldl_cons, ih, ih (0 + byte), UInt8.zero_add, UInt8.add_assoc]

@[simp] theorem byteSum_cons (byte : UInt8) (bytes : List UInt8) : byteSum (byte :: bytes) = byte + byteSum bytes := by
  rw [byteSum, List.foldl_cons, foldl_add, UInt8.zero_add]

/-- A byte that is replaced is replaced in the sum. -/
theorem byteSum_set {bytes : List UInt8} {i : Nat} {old : UInt8} (h : bytes[i]? = some old) (new : UInt8) :
    byteSum (bytes.set i new) + old = byteSum bytes + new := by
  induction bytes generalizing i with
  | nil => cases h
  | cons byte bytes ih =>
      cases i with
      | zero =>
          obtain rfl := Option.some.inj h
          rw [List.set_cons_zero, byteSum_cons, byteSum_cons]
          grind
      | succ i =>
          rw [List.set_cons_succ, byteSum_cons, byteSum_cons, UInt8.add_assoc, ih h, UInt8.add_assoc]

/-! ## The byte that balances the sum -/

/-- The byte at `i` is set to what the sum lacks. -/
def balance (bytes : List UInt8) (i : Nat) : List UInt8 := bytes.set i (0 - byteSum bytes)

@[simp] theorem length_balance (bytes : List UInt8) (i : Nat) : (balance bytes i).length = bytes.length :=
  List.length_set

theorem byteSum_balance {bytes : List UInt8} {i : Nat} (h : bytes[i]? = some 0) : byteSum (balance bytes i) = 0 := by
  have hset := byteSum_set h (0 - byteSum bytes)
  rw [UInt8.add_zero] at hset
  rw [balance, hset, UInt8.add_comm]
  exact UInt8.sub_add_cancel ..

/-- What stands aside of the byte stays. -/
theorem part_set_aside {α : Type _} (l : List α) (a : α) {i start n : Nat} (h : i < start ∨ start + n ≤ i) :
    part (l.set i a) start n = part l start n := by
  apply List.ext_getElem?
  intro k
  rw [getElem?_part, getElem?_part]
  split
  · rw [List.getElem?_set_ne (by omega)]
  · rfl

/-! ## Fields laid out over zeros -/

/-- `size` zeros, and the fields written over them. -/
def laidOut (size : Nat) (fields : List (Patch UInt8)) : List UInt8 := applyAll (List.replicate size 0) fields

/-- Fields in ascending order, each behind the one before it, and the last one inside. -/
def Ascending (size : Nat) (fields : List (Patch UInt8)) : Prop :=
  (fields.Pairwise fun p q => p.stop ≤ q.start) ∧ ∀ p ∈ fields, p.stop ≤ size

section Layout
variable {size : Nat} {fields : List (Patch UInt8)}

section
variable (h : Ascending size fields)
include h

theorem Ascending.fits : ∀ p ∈ fields, p.Fits (List.replicate size (0 : UInt8)).length := by
  intro p hp
  rw [List.length_replicate]
  exact .inr (h.2 p hp)

theorem length_laidOut : (laidOut size fields).length = size := by
  rw [laidOut, length_applyAll h.fits, List.length_replicate]

/-- **A field** reads as it was written. -/
theorem part_laidOut {p : Patch UInt8} (hp : p ∈ fields) : part (laidOut size fields) p.start p.data.length = p.data :=
  part_applyAll_of_mem h.fits (h.1.imp fun hpq => .inl hpq) hp

/-- A field of one byte. -/
theorem getElem?_laidOut {i : Nat} {byte : UInt8} (hp : ⟨i, [byte]⟩ ∈ fields) :
    (laidOut size fields)[i]? = some byte := by
  have hpart := congrArg (fun l => l[0]?) (part_laidOut h hp)
  simpa only [getElem?_part, List.length_singleton, Nat.zero_lt_one, if_true, Nat.add_zero,
    List.getElem?_cons_zero] using hpart

end

/-! ## Fields, and a byte that balances them -/

def balanced (size : Nat) (fields : List (Patch UInt8)) (i : Nat) : List UInt8 := balance (laidOut size fields) i

variable {i offset : Nat} {data : List UInt8} {byte : UInt8}
variable (h : Ascending size fields)
include h

theorem length_balanced : (balanced size fields i).length = size := by
  rw [balanced, length_balance, length_laidOut h]

theorem byteSum_balanced (hi : ⟨i, [0]⟩ ∈ fields) :
    byteSum (balanced size fields i) = 0 := byteSum_balance (getElem?_laidOut h hi)

/-- **A field** reads as it was written, unless it is the balancing byte. -/
theorem part_balanced (hp : ⟨offset, data⟩ ∈ fields)
    (haside : i < offset ∨ offset + data.length ≤ i) : part (balanced size fields i) offset data.length = data := by
  rw [balanced, balance, part_set_aside _ _ haside]
  exact part_laidOut h hp

theorem wordAt_balanced (hp : ⟨offset, data⟩ ∈ fields) (haside : i < offset ∨ offset + data.length ≤ i) :
    wordAt (balanced size fields i) offset data.length = wordOfBytes data :=
  congrArg wordOfBytes (part_balanced h hp haside)

theorem getD_balanced (hp : ⟨offset, [byte]⟩ ∈ fields)
    (haside : i < offset ∨ offset + 1 ≤ i) : (balanced size fields i).getD offset 0 = byte := by
  have hne : i ≠ offset := by omega
  rw [List.getD_eq_getElem?_getD, balanced, balance, List.getElem?_set_ne hne, getElem?_laidOut h hp]
  rfl

end Layout

/-! ## Changes -/

/-- Whatever single byte is changed, the table is not accepted any more. -/
def DetectsChanges (accepts : List UInt8 → Bool) (table : List UInt8) : Prop :=
  ∀ (i : Nat) (old new : UInt8), table[i]? = some old → new ≠ old → accepts (table.set i new) = false

/-- **Detection.** A validator that takes no table of this length with another sum notices every change of a byte. -/
theorem detectsChanges_of_sum {accepts : List UInt8 → Bool} {table : List UInt8} (hsum : byteSum table = 0)
    (h : ∀ bytes, bytes.length = table.length → accepts bytes = true → byteSum bytes = 0) :
    DetectsChanges accepts table := by
  intro i old new hold hne
  cases haccepts : accepts (table.set i new) with
  | false => rfl
  | true =>
      have hset := byteSum_set hold new
      rw [h _ List.length_set haccepts, hsum, UInt8.zero_add, UInt8.zero_add] at hset
      exact absurd hset.symm hne

end Lib.Checksums
