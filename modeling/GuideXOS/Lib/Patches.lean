import Mathlib.Data.List.Basic
import GuideXOS.Lib.Words

/-!
# `Patches` — items written over a sequence

A patch overwrites a stretch of a sequence. Patches are applied one after the other; what is read back of a stretch is
the last patch that touched it: `part_applyAll_of_mem` if no later patch does, `part_applyAll_aside` if none does.
-/

namespace Lib.Patches

variable {α : Type _}

/-- Items, and where they are written. -/
structure Patch (α : Type _) where
  start : Nat
  data : List α
  deriving DecidableEq

/-- `n` items from `start` on. -/
def part (l : List α) (start n : Nat) : List α := (l.drop start).take n

variable (l : List α)

theorem getElem?_part (start n i : Nat) : (part l start n)[i]? = if i < n then l[start + i]? else none := by
  rw [part, List.getElem?_take]
  split
  · rw [List.getElem?_drop]
  · rfl

theorem length_part {l : List α} {start n : Nat} (h : start + n ≤ l.length) : (part l start n).length = n := by
  rw [part, List.length_take, List.length_drop]
  omega

theorem part_part {start n start' n' : Nat} (h : start' + n' ≤ n) :
    part (part l start n) start' n' = part l (start + start') n' := by
  apply List.ext_getElem?
  intro i
  rw [getElem?_part, getElem?_part, getElem?_part, Nat.add_assoc]
  split
  · rw [if_pos (by omega)]
  · rfl

namespace Patch

variable (p : Patch α)

def stop : Nat := p.start + p.data.length

/-- The patch ends inside a sequence of `n` items. -/
def Fits (n : Nat) : Prop := p.data = [] ∨ p.stop ≤ n

/-- The patch does not touch `n` items from `start` on. -/
def Aside (start n : Nat) : Prop := start + n ≤ p.start ∨ p.stop ≤ start

def apply (l : List α) (p : Patch α) : List α := l.take p.start ++ p.data ++ l.drop p.stop

variable {l : List α} {p : Patch α}

theorem apply_nil (h : p.data = []) : apply l p = l := by
  simp [apply, stop, h]

theorem length_apply (h : p.Fits l.length) : (apply l p).length = l.length := by
  rcases h with hempty | hstop
  · rw [apply_nil hempty]
  · simp only [apply, stop, List.length_append, List.length_take, List.length_drop] at hstop ⊢
    omega

theorem getElem?_apply (h : p.Fits l.length) (i : Nat) :
    (apply l p)[i]? = if p.start ≤ i ∧ i < p.stop then p.data[i - p.start]? else l[i]? := by
  rcases h with hempty | hstop
  · rw [apply_nil hempty, if_neg]
    simp only [stop, hempty, List.length_nil]
    omega
  · have hstart : (l.take p.start).length = p.start := by
      simp only [stop, List.length_take] at hstop ⊢
      omega
    rw [apply, List.append_assoc]
    by_cases hlow : i < p.start
    · rw [if_neg (by omega), List.getElem?_append_left (by omega), List.getElem?_take_of_lt hlow]
    · rw [List.getElem?_append_right (by omega), hstart]
      by_cases hhigh : i < p.stop
      · rw [if_pos ⟨by omega, hhigh⟩, List.getElem?_append_left (by simp only [stop] at hhigh; omega)]
      · rw [if_neg (by omega), List.getElem?_append_right (by simp only [stop] at hhigh; omega), List.getElem?_drop]
        congr 1
        simp only [stop] at hhigh ⊢
        omega

/-- **What a patch wrote** is read back. -/
theorem part_apply (h : p.Fits l.length) : part (apply l p) p.start p.data.length = p.data := by
  apply List.ext_getElem?
  intro i
  rw [getElem?_part, getElem?_apply h]
  by_cases hi : i < p.data.length
  · rw [if_pos hi, if_pos ⟨by omega, by simp only [stop]; omega⟩, Nat.add_sub_cancel_left]
  · rw [if_neg hi, List.getElem?_eq_none (by omega)]

/-- **What a patch does not touch** stays. -/
theorem part_apply_aside (h : p.Fits l.length) {start n : Nat} (haside : p.Aside start n) :
    part (apply l p) start n = part l start n := by
  apply List.ext_getElem?
  intro i
  rw [getElem?_part, getElem?_part, getElem?_apply h]
  by_cases hi : i < n
  · rw [if_pos hi, if_pos hi, if_neg]
    rcases haside with hlow | hhigh <;> omega
  · rw [if_neg hi, if_neg hi]

/-- A patch and another one behind it are one patch. -/
theorem apply_append {start : Nat} {a c : List α} (h : start ≤ l.length) :
    apply (apply l ⟨start, a⟩) ⟨start + a.length, c⟩ = apply l ⟨start, a ++ c⟩ := by
  have hstart : (l.take start).length = start := by
    rw [List.length_take]
    omega
  have hfirst : (l.take start ++ a).length = start + a.length := by rw [List.length_append, hstart]
  simp only [apply, stop, List.length_append]
  rw [List.take_left' hfirst, ← List.drop_drop, List.drop_left' hfirst, List.drop_drop, Nat.add_assoc start,
    List.append_assoc (l.take start) a c]

end Patch

open Patch

/-! ## One after the other -/

def applyAll (l : List α) (ps : List (Patch α)) : List α := ps.foldl apply l

@[simp] theorem applyAll_nil : applyAll l [] = l := rfl

@[simp] theorem applyAll_cons (p : Patch α) (ps : List (Patch α)) :
    applyAll l (p :: ps) = applyAll (apply l p) ps := rfl

section All
variable {l : List α} {ps : List (Patch α)}
variable (h : ∀ p ∈ ps, p.Fits l.length)
include h

theorem length_applyAll : (applyAll l ps).length = l.length := by
  induction ps generalizing l with
  | nil => rfl
  | cons p ps ih =>
      obtain ⟨hp, hps⟩ := List.forall_mem_cons.mp h
      have hlength := length_apply hp
      rw [applyAll_cons, ih (by rwa [hlength]), hlength]

/-- **No patch touches** the stretch. -/
theorem part_applyAll_aside {start n : Nat} (haside : ∀ p ∈ ps, p.Aside start n) :
    part (applyAll l ps) start n = part l start n := by
  induction ps generalizing l with
  | nil => rfl
  | cons p ps ih =>
      obtain ⟨hp, hps⟩ := List.forall_mem_cons.mp h
      obtain ⟨hap, haps⟩ := List.forall_mem_cons.mp haside
      rw [applyAll_cons, ih (by rwa [length_apply hp]) haps, part_apply_aside hp hap]

/-- **No later patch touches** what a patch wrote. -/
theorem part_applyAll_of_mem
    (hlater : ps.Pairwise fun p q => q.Aside p.start p.data.length) {p : Patch α} (hp : p ∈ ps) :
    part (applyAll l ps) p.start p.data.length = p.data := by
  induction ps generalizing l with
  | nil => cases hp
  | cons q ps ih =>
      obtain ⟨hq, hps⟩ := List.forall_mem_cons.mp h
      obtain ⟨haside, hlater⟩ := List.pairwise_cons.mp hlater
      have hps' : ∀ p ∈ ps, p.Fits (apply l q).length := by rwa [length_apply hq]
      rw [applyAll_cons]
      rcases List.mem_cons.mp hp with rfl | hp
      · rw [part_applyAll_aside hps' haside, part_apply hq]
      · exact ih hps' hlater hp

/-- An item that no patch touches. -/
theorem getElem?_applyAll_aside {i : Nat} (haside : ∀ p ∈ ps, p.Aside i 1) : (applyAll l ps)[i]? = l[i]? := by
  have hpart := congrArg (fun l => l[0]?) (part_applyAll_aside h haside)
  simpa only [getElem?_part, Nat.zero_lt_one, if_true, Nat.add_zero] using hpart

end All

end Lib.Patches

/-!
## Words of a byte string that an amount is added to

`addWords` adds one amount to the words at a list of offsets, one after the other. If no two of the words overlap without
being the same one, every word grows by the amount once per occurrence of its offset (`wordAt_addWords`), and the bytes
aside of them stay.
-/

namespace Lib.Increments
open Words Patches

/-- The word at an offset, with an amount added to it. -/
def addWord (amount : UInt64) (bytes : List UInt8) (offset : Nat) : List UInt8 :=
  Patch.apply bytes ⟨offset, bytesOfWord 8 (wordAt bytes offset 8 + amount)⟩

def addWords (amount : UInt64) (offsets : List Nat) (bytes : List UInt8) : List UInt8 :=
  offsets.foldl (addWord amount) bytes

/-- Two words that are the same one, or that have no byte in common. -/
def Apart (a b : Nat) : Prop := a = b ∨ a + 8 ≤ b ∨ b + 8 ≤ a

instance (a b : Nat) : Decidable (Apart a b) := inferInstanceAs (Decidable (_ ∨ _))

variable {amount : UInt64} {bytes : List UInt8} {offset : Nat} {offsets : List Nat}

@[simp] theorem addWords_nil : addWords amount [] bytes = bytes := rfl

@[simp] theorem addWords_cons :
    addWords amount (offset :: offsets) bytes = addWords amount offsets (addWord amount bytes offset) := rfl

theorem addWords_append {offsets' : List Nat} :
    addWords amount (offsets ++ offsets') bytes = addWords amount offsets' (addWords amount offsets bytes) :=
  List.foldl_append

/-! ## One word -/

section One

variable (h : offset + 8 ≤ bytes.length)
include h

theorem addWord_fits : Patch.Fits ⟨offset, bytesOfWord 8 (wordAt bytes offset 8 + amount)⟩ bytes.length := by
  right
  rw [Patch.stop, length_bytesOfWord]
  exact h

theorem length_addWord : (addWord amount bytes offset).length = bytes.length :=
  Patch.length_apply (addWord_fits h)

theorem wordAt_addWord : wordAt (addWord amount bytes offset) offset 8 = wordAt bytes offset 8 + amount := by
  have hpart := Patch.part_apply (@addWord_fits amount bytes offset h)
  rw [length_bytesOfWord] at hpart
  exact (congrArg wordOfBytes hpart).trans (wordOfBytes_bytesOfWord _)

/-- A stretch beside the word stays. -/
theorem part_addWord_aside {start n : Nat} (haside : start + n ≤ offset ∨ offset + 8 ≤ start) :
    part (addWord amount bytes offset) start n = part bytes start n := by
  refine Patch.part_apply_aside (addWord_fits h) ?_
  rw [Patch.Aside, Patch.stop, length_bytesOfWord]
  exact haside

/-- Another word grows with it if it is the same one, and stays else. -/
theorem wordAt_addWord_of_apart {word : Nat} (hapart : Apart word offset) :
    wordAt (addWord amount bytes offset) word 8 = wordAt bytes word 8 + if offset = word then amount else 0 := by
  by_cases heq : offset = word
  · rw [if_pos heq, ← heq]
    exact wordAt_addWord h
  · rw [if_neg heq, UInt64.add_zero]
    refine congrArg wordOfBytes (part_addWord_aside h ?_)
    rcases hapart with rfl | hbelow | habove
    · exact absurd rfl heq
    · exact .inl hbelow
    · exact .inr habove

end One

/-! ## All of them -/

section All
variable (h : ∀ offset ∈ offsets, offset + 8 ≤ bytes.length)
include h

theorem length_addWords : (addWords amount offsets bytes).length = bytes.length := by
  induction offsets generalizing bytes with
  | nil => rfl
  | cons offset offsets ih =>
      obtain ⟨hfirst, hrest⟩ := List.forall_mem_cons.mp h
      have hlength := @length_addWord amount bytes offset hfirst
      rw [addWords_cons, ih (by rwa [hlength]), hlength]

/-- **Beside all words** nothing changes. -/
theorem part_addWords_aside {start n : Nat} (haside : ∀ offset ∈ offsets, start + n ≤ offset ∨ offset + 8 ≤ start) :
    part (addWords amount offsets bytes) start n = part bytes start n := by
  induction offsets generalizing bytes with
  | nil => rfl
  | cons offset offsets ih =>
      obtain ⟨hfirst, hrest⟩ := List.forall_mem_cons.mp h
      obtain ⟨hafirst, harest⟩ := List.forall_mem_cons.mp haside
      rw [addWords_cons, ih (by rwa [length_addWord hfirst]) harest, part_addWord_aside hfirst hafirst]

/-- **Each word** grows by the amount once per occurrence of its offset. -/
theorem wordAt_addWords {word : Nat} (hapart : ∀ offset ∈ offsets, Apart word offset) :
    wordAt (addWords amount offsets bytes) word 8 = wordAt bytes word 8 + UInt64.ofNat (offsets.count word) * amount := by
  induction offsets generalizing bytes with
  | nil => simp
  | cons offset offsets ih =>
      obtain ⟨hfirst, hrest⟩ := List.forall_mem_cons.mp h
      obtain ⟨hafirst, harest⟩ := List.forall_mem_cons.mp hapart
      rw [addWords_cons, ih (by rwa [length_addWord hfirst]) harest, wordAt_addWord_of_apart hfirst hafirst,
        List.count_cons]
      by_cases heq : offset = word
      · rw [if_pos heq, if_pos (by simpa using heq), UInt64.ofNat_add, UInt64.add_mul, UInt64.add_assoc,
          UInt64.add_comm amount]
        simp
      · rw [if_neg heq, if_neg (by simpa using heq), UInt64.add_zero, Nat.add_zero]

end All

/-! ## What an increment is -/

/-- Bytes whose words at some offsets have grown by an amount once per occurrence, and which are the same else. -/
structure Increased (offsets : List Nat) (amount : UInt64) (bytes bytes' : List UInt8) : Prop where
  length : bytes'.length = bytes.length
  words : ∀ offset ∈ offsets,
    wordAt bytes' offset 8 = wordAt bytes offset 8 + UInt64.ofNat (offsets.count offset) * amount
  others : ∀ i, (∀ offset ∈ offsets, i < offset ∨ offset + 8 ≤ i) → bytes'[i]? = bytes[i]?

theorem increased_zero : Increased offsets 0 bytes bytes :=
  ⟨rfl, fun offset _ => by rw [UInt64.mul_zero, UInt64.add_zero], fun _ _ => rfl⟩

theorem increased_addWords (hinside : ∀ offset ∈ offsets, offset + 8 ≤ bytes.length)
    (hapart : ∀ a ∈ offsets, ∀ b ∈ offsets, Apart a b) : Increased offsets amount bytes (addWords amount offsets bytes) := by
  refine ⟨length_addWords hinside, fun offset hoffset => wordAt_addWords hinside (hapart offset hoffset), fun i haside => ?_⟩
  have hpart : part (addWords amount offsets bytes) i 1 = part bytes i 1 :=
    part_addWords_aside hinside fun offset hoffset => by
      have := haside offset hoffset
      omega
  have hitem := congrArg (fun l => l[0]?) hpart
  simpa only [getElem?_part, Nat.zero_lt_one, if_true, Nat.add_zero] using hitem

/-- **Two increments** of the same bytes are one increment apart. -/
theorem Increased.between {amount' : UInt64} {bytes₁ bytes₂ : List UInt8} (h₁ : Increased offsets amount bytes bytes₁)
    (h₂ : Increased offsets amount' bytes bytes₂) : Increased offsets (amount' - amount) bytes₁ bytes₂ := by
  refine ⟨h₂.length.trans h₁.length.symm, fun offset hoffset => ?_, fun i haside => ?_⟩
  · rw [h₂.words offset hoffset, h₁.words offset hoffset]
    grind
  · exact (h₂.others i haside).trans (h₁.others i haside).symm

end Lib.Increments
