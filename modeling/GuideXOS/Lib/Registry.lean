import Mathlib.Algebra.Group.Nat.Defs
import Mathlib.Data.List.Nodup
import Mathlib.Data.List.Perm.Subperm

/-!
# `Registry` — lists of entries, each found by its key

A registry is a list in which no key occurs twice (`UniqueKeys`): what is found under a key is then the only entry
that has it. Entries are filed under an owner as well, which several of them may share. `owners` lists each
owner once, in the order of the first entries; an owner that has no entry yet can be registered and struck off
again without a trace (`filter_append_fresh`). `exists_free` finds such an owner by counting up from any number.
-/

namespace Lib.Registry

variable {α κ η : Type _}

/-! ## Keys -/

/-- No two entries have the same key. -/
def UniqueKeys (key : α → κ) (l : List α) : Prop := (l.map key).Nodup

section UniqueKeys
variable {key : α → κ} {l : List α} {a b : α}

theorem uniqueKeys_append (h : UniqueKeys key l) (hnew : ∀ b ∈ l, key b ≠ key a) : UniqueKeys key (l ++ [a]) := by
  unfold UniqueKeys
  rw [List.map_append, List.nodup_append']
  refine ⟨h, List.nodup_singleton _, ?_⟩
  intro k hk hk'
  obtain ⟨b, hb, rfl⟩ := List.mem_map.mp hk
  exact hnew b hb (List.mem_singleton.mp hk')

/-- Two entries with one key are the same entry. -/
theorem UniqueKeys.eq_of_key (h : UniqueKeys key l) (ha : a ∈ l) (hb : b ∈ l) (hkey : key a = key b) : a = b :=
  List.inj_on_of_nodup_map h ha hb hkey

/-- A search under a key finds the entry that has it. -/
theorem UniqueKeys.find?_eq (h : UniqueKeys key l) {p : α → Bool} (hp : ∀ b ∈ l, p b = true ↔ key b = key a)
    (ha : a ∈ l) :
    l.find? p = some a := by
  cases hfind : l.find? p with
  | none =>
      have hnot := List.find?_eq_none.mp hfind a ha
      exact absurd ((hp a ha).mpr rfl) hnot
  | some b =>
      have hb : b ∈ l := List.mem_of_find?_eq_some hfind
      have hkey : key b = key a := (hp b hb).mp (List.find?_some hfind)
      rw [h.eq_of_key hb ha hkey]

end UniqueKeys

/-! ## Owners -/

section Owners
variable [DecidableEq η] (owner : α → η)

/-- The loop body that collects owners: one that was seen already is passed over. -/
def addOwner (seen : List η) (a : α) : List η := if owner a ∈ seen then seen else seen ++ [owner a]

def owners (l : List α) : List η := l.foldl (addOwner owner) []

variable {owner} {l : List α} {a : α} {seen : List η} {o : η}

theorem mem_addOwner : o ∈ addOwner owner seen a ↔ o ∈ seen ∨ o = owner a := by
  unfold addOwner
  by_cases h : owner a ∈ seen
  · rw [if_pos h]
    refine ⟨Or.inl, ?_⟩
    rintro (ho | rfl)
    · exact ho
    · exact h
  · rw [if_neg h, List.mem_append, List.mem_singleton]

theorem nodup_addOwner (hseen : seen.Nodup) : (addOwner owner seen a).Nodup := by
  unfold addOwner
  by_cases h : owner a ∈ seen
  · rwa [if_pos h]
  · rw [if_neg h, List.nodup_append']
    refine ⟨hseen, List.nodup_singleton _, ?_⟩
    intro o ho ho'
    rw [List.mem_singleton.mp ho'] at ho
    exact h ho

theorem mem_foldl_addOwner : o ∈ l.foldl (addOwner owner) seen ↔ o ∈ seen ∨ ∃ a ∈ l, owner a = o := by
  induction l generalizing seen with
  | nil => simp
  | cons a l ih =>
      rw [List.foldl_cons, ih, mem_addOwner, or_assoc]
      simp [eq_comm]

theorem mem_owners : o ∈ owners owner l ↔ ∃ a ∈ l, owner a = o := by
  rw [owners, mem_foldl_addOwner]
  simp

theorem nodup_owners : (owners owner l).Nodup := by
  unfold owners
  suffices h : ∀ seen : List η, seen.Nodup → (l.foldl (addOwner owner) seen).Nodup from h [] List.nodup_nil
  induction l with
  | nil => exact fun seen hseen => hseen
  | cons a l ih => exact fun seen hseen => ih _ (nodup_addOwner hseen)

variable (owner) in
/-- Striking off an owner that was only just registered. -/
theorem filter_append_fresh (hfresh : ∀ b ∈ l, owner b ≠ owner a) :
    (l ++ [a]).filter (fun b => owner b ≠ owner a) = l := by
  rw [List.filter_append, List.filter_eq_self.mpr (by simpa using hfresh)]
  simp

end Owners

/-! ## Free numbers -/

/-- Of more consecutive numbers than are taken, one is free. -/
theorem exists_free (taken : List UInt64) (start : UInt64) {n : Nat} (hlt : taken.length < n) (hn : n ≤ 2 ^ 64) :
    ∃ i < n, start + UInt64.ofNat i ∉ taken := by
  by_contra hall
  push Not at hall
  have hinj : ((List.range n).map fun i => start + UInt64.ofNat i).Nodup := by
    refine List.Nodup.map_on ?_ List.nodup_range
    intro i hi j hj hij
    have hi' : i < 2 ^ 64 := Nat.lt_of_lt_of_le (List.mem_range.mp hi) hn
    have hj' : j < 2 ^ 64 := Nat.lt_of_lt_of_le (List.mem_range.mp hj) hn
    have heq := congrArg UInt64.toNat ((UInt64.add_right_inj start).mp hij)
    rwa [UInt64.toNat_ofNat_of_lt' hi', UInt64.toNat_ofNat_of_lt' hj'] at heq
  have hsubset : ((List.range n).map fun i => start + UInt64.ofNat i) ⊆ taken := by
    intro x hx
    obtain ⟨i, hi, rfl⟩ := List.mem_map.mp hx
    exact hall i (List.mem_range.mp hi)
  have hle := (hinj.subperm hsubset).length_le
  rw [List.length_map, List.length_range] at hle
  omega

end Lib.Registry

/-!
## Names that end in a number

A name, a hyphen, and a number in decimal with leading zeros. The number can be read back whatever the name is
(`numbered_inj`), so a counter that only goes up gives a new name every time.
-/

namespace Lib

/-- A number in decimal, filled up with zeros to a width. -/
def zeroPadded (width n : Nat) : List Char := (Nat.toDigits 10 n).leftpad width '0'

def numbered (name : String) (width n : Nat) : String := name ++ "-" ++ String.ofList (zeroPadded width n)

theorem ofDigitChars_zeroPadded (width n : Nat) : Nat.ofDigitChars 10 (zeroPadded width n) 0 = n := by
  unfold zeroPadded List.leftpad
  rw [Nat.ofDigitChars_append, Nat.ofDigitChars_replicate_zero, Nat.mul_zero, Nat.ofDigitChars_ten_toDigits]

/-- A number has no hyphen. -/
theorem ne_hyphen_of_mem_zeroPadded {width n : Nat} {c : Char} (h : c ∈ zeroPadded width n) : c ≠ '-' := by
  have hdigit : c.isDigit = true := by
    rcases List.mem_append.mp h with hzero | hdigits
    · rw [List.eq_of_mem_replicate hzero]
      rfl
    · exact Nat.isDigit_of_mem_toDigits (by decide) (by decide) hdigits
  rintro rfl
  cases hdigit

theorem toList_numbered (name : String) (width n : Nat) :
    (numbered name width n).toList = name.toList ++ '-' :: zeroPadded width n := by
  simp [numbered]

/-- What follows the last hyphen. -/
theorem takeWhile_numbered (name : String) (width n : Nat) :
    (numbered name width n).toList.reverse.takeWhile (· ≠ '-') = (zeroPadded width n).reverse := by
  have hdigits : ∀ c ∈ (zeroPadded width n).reverse, decide (c ≠ '-') = true := by
    intro c hc
    exact decide_eq_true (ne_hyphen_of_mem_zeroPadded (List.mem_reverse.mp hc))
  rw [toList_numbered, List.reverse_append, List.reverse_cons, List.append_assoc, List.takeWhile_append_of_pos hdigits]
  simp

/-- **The number is part of the name.** -/
theorem numbered_inj {name name' : String} {width m n : Nat} (h : numbered name width m = numbered name' width n) :
    m = n := by
  have hdigits : zeroPadded width m = zeroPadded width n := by
    rw [← List.reverse_inj, ← takeWhile_numbered name, ← takeWhile_numbered name', h]
  rw [← ofDigitChars_zeroPadded width m, ← ofDigitChars_zeroPadded width n, hdigits]

end Lib
