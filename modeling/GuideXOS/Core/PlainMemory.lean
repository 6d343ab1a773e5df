import GuideXOS.Core.Memory

/-!
# `PlainMemory` — memory whose bytes are independent

In plain memory a byte that is written is read back, and no other byte changes: there are no devices in it, and
no two addresses name the same byte. `FlatMemory` and `SparseMemory` are plain.
-/

namespace GuideXOS.Core
open Lib.Stretches

class PlainMemory (M : Type _) [IMemory M] : Prop where
  read_byte : ∀ {m : M} {address : UInt64} {bytes : List UInt8},
    IMemory.read m address 1 = .ok bytes → ∃ b, bytes = [b]
  readByte_write : ∀ {m m' : M} {address : UInt64} {b : UInt8}, IMemory.write m address [b] = .ok m' →
    ∀ x, readByte m' x = if x = address then some b else readByte m x

namespace PlainMemory
variable {M : Type _} [IMemory M] [PlainMemory M] {m m' : M} {address : UInt64} {b : UInt8}

omit [PlainMemory M] in
theorem readByte_of_read (h : IMemory.read m address 1 = .ok [b]) : readByte m address = some b := by
  rw [readByte, h]
  rfl

theorem readByte_other (h : IMemory.write m address [b] = .ok m') {x : UInt64} (hx : x ≠ address) :
    readByte m' x = readByte m x := by
  rw [readByte_write h, if_neg hx]

end PlainMemory

/-! ## The plain implementations -/

namespace FlatMemory

instance : PlainMemory FlatMemory where
  read_byte {m address bytes} h := by
    have hread : (m.read address 1).toOption = some bytes := by
      rw [show m.read address 1 = .ok bytes from h]
      rfl
    rw [read_toOption] at hread
    split at hread
    · rename_i hin
      have hlt : address.toNat < m.data.length := by omega
      obtain rfl := Option.some.inj hread
      exact ⟨m.data[address.toNat], by rw [List.drop_eq_getElem_cons hlt]; rfl⟩
    · cases hread
  readByte_write {m m' address b} h x := by
    have hwrite : (m.write address [b]).toOption = some m' := by
      rw [show m.write address [b] = .ok m' from h]
      rfl
    rw [write_toOption] at hwrite
    split at hwrite
    · rename_i hin
      have hlt : address.toNat < m.data.length := by
        rw [List.length_singleton] at hin
        have := hin.resolve_left (List.cons_ne_nil _ _)
        omega
      obtain rfl := Option.some.inj hwrite
      have htake : (m.data.take address.toNat).length = address.toNat := by
        rw [List.length_take]
        omega
      rw [readByte_eq, readByte_eq, List.append_assoc, List.singleton_append, List.length_singleton]
      by_cases hx : x = address
      · subst hx
        rw [if_pos rfl, List.getElem?_append_right (by omega), htake, Nat.sub_self]
        rfl
      · have hne : x.toNat ≠ address.toNat := fun h => hx (UInt64.toNat_inj.mp h)
        rw [if_neg hx]
        rcases Nat.lt_or_gt_of_ne hne with hlow | hhigh
        · rw [List.getElem?_append_left (by omega), List.getElem?_take_of_lt hlow]
        · obtain ⟨k, hk⟩ : ∃ k, x.toNat = address.toNat + 1 + k := Nat.exists_eq_add_of_le hhigh
          have hindex : x.toNat - address.toNat = k + 1 := by omega
          rw [List.getElem?_append_right (by omega), htake, hindex, List.getElem?_cons_succ, List.getElem?_drop, hk]
    · cases hwrite

end FlatMemory

namespace SparseMemory

theorem readByte_eq (m : SparseMemory) (address : UInt64) :
    readByte m address = if address.toNat + 1 ≤ m.size.toNat then some (m.byte address.toNat) else none := by
  show (m.read address 1).toOption.bind List.head? = _
  unfold read inBounds
  by_cases hin : address.toNat + 1 ≤ m.size.toNat
  · rw [if_pos (by simpa using hin), if_pos hin]
    rfl
  · rw [if_neg (by simpa using hin), if_neg hin]
    rfl

instance : PlainMemory SparseMemory where
  read_byte {m address bytes} h := by
    change m.read address 1 = .ok bytes at h
    unfold read at h
    split at h
    · obtain rfl := Except.ok.inj h
      exact ⟨_, rfl⟩
    · cases h
  readByte_write {m m' address b} h x := by
    change m.write address [b] = .ok m' at h
    unfold write at h
    split at h
    · rename_i hin
      obtain rfl := Except.ok.inj h
      have hlt : address.toNat + 1 ≤ m.size.toNat := by simpa [inBounds] using hin
      rw [readByte_eq, readByte_eq]
      by_cases hx : x = address
      · subst hx
        simp [hlt]
      · have hne : x.toNat ≠ address.toNat := fun h => hx (UInt64.toNat_inj.mp h)
        have hout : ¬ (address.toNat ≤ x.toNat ∧ x.toNat < address.toNat + 1) := by omega
        rw [if_neg hx]
        refine if_congr Iff.rfl ?_ rfl
        exact congrArg some (if_neg hout)
    · cases h

end SparseMemory

/-! ## What writes leave alone -/

section Frame
variable {M : Type _} [IMemory M] [PlainMemory M]

theorem readByte_writeEach {m m' : M} {l : List (UInt64 × UInt8)} (h : writeEach m l = some m') {x : UInt64}
    (hx : ∀ e ∈ l, e.1 ≠ x) : readByte m' x = readByte m x := by
  induction l generalizing m with
  | nil =>
      obtain rfl := Option.some.inj h
      rfl
  | cons e l ih =>
      obtain ⟨he, hl⟩ := List.forall_mem_cons.mp hx
      rw [writeEach] at h
      obtain ⟨m₁, hwrite, hrest⟩ := Option.bind_eq_some_iff.mp h
      cases hfirst : IMemory.write m e.1 [e.2] with
      | error _ =>
          rw [hfirst] at hwrite
          cases hwrite
      | ok m₂ =>
          rw [hfirst] at hwrite
          obtain rfl := Option.some.inj hwrite
          rw [ih hrest hl, PlainMemory.readByte_other hfirst he.symm]

variable [BytewiseMemory M]

/-- A write changes no byte outside its range. -/
theorem readByte_write {m m' : M} {address : UInt64} {src : List UInt8} (h : IMemory.write m address src = .ok m')
    (hend : address.toNat + src.length ≤ 2 ^ 64) {x : UInt64}
    (hx : x.toNat < address.toNat ∨ address.toNat + src.length ≤ x.toNat) : readByte m' x = readByte m x := by
  have heach := BytewiseMemory.write_eq m hend
  rw [h] at heach
  refine readByte_writeEach heach.symm fun e he heq => ?_
  obtain ⟨i, hi, hat⟩ := mem_consecutive.mp (List.of_mem_zip he).1
  have hnat : x.toNat = address.toNat + i := by
    rw [← heq, hat, UInt64.toNat_add, UInt64.toNat_ofNat_of_lt' (show i < 2 ^ 64 by omega),
      Nat.mod_eq_of_lt (by omega)]
  omega

/-- Memory that is reached by writes into addresses that meet `P`. -/
inductive WritesIn (P : Nat → Prop) : M → M → Prop
  | refl (m : M) : WritesIn P m m
  | step {m₁ m₂ m₃ : M} {address : UInt64} {src : List UInt8} (h : WritesIn P m₁ m₂)
      (hwrite : IMemory.write m₂ address src = .ok m₃) (hend : address.toNat + src.length ≤ 2 ^ 64)
      (hin : ∀ x, address.toNat ≤ x → x < address.toNat + src.length → P x) : WritesIn P m₁ m₃

omit [PlainMemory M] [BytewiseMemory M] in
theorem readEach_congr {m m' : M} {addresses : List UInt64} (h : ∀ x ∈ addresses, readByte m' x = readByte m x) :
    readEach m' addresses = readEach m addresses := by
  induction addresses with
  | nil => rfl
  | cons x addresses ih =>
      obtain ⟨hx, hrest⟩ := List.forall_mem_cons.mp h
      have hread := ih hrest
      unfold readEach at hread ⊢
      rw [List.mapM_cons, List.mapM_cons, hx, hread]

namespace WritesIn
variable {P : Nat → Prop} {m m' : M}

omit [PlainMemory M] [BytewiseMemory M] in
theorem getTotalSize_eq [LawfulIMemory M] (h : WritesIn P m m') : getTotalSize m' = getTotalSize m := by
  induction h with
  | refl => rfl
  | step _ hwrite _ _ ih => exact (LawfulIMemory.getTotalSize_write hwrite).trans ih

theorem readByte_eq (h : WritesIn P m m') {x : UInt64} (hx : ¬ P x.toNat) : readByte m' x = readByte m x := by
  induction h with
  | refl => rfl
  | @step m₂ m₃ address src _ hwrite hend hin ih =>
      rw [readByte_write hwrite hend, ih]
      by_contra hout
      exact hx (hin _ (by omega) (by omega))

/-- A doubleword outside the written addresses is read as before. -/
theorem readGuestU64_eq (h : WritesIn P m m') {address : UInt64} (hend : address.toNat + 8 ≤ 2 ^ 64)
    (hx : ∀ x, address.toNat ≤ x → x < address.toNat + 8 → ¬ P x) :
    readGuestU64 m' address = readGuestU64 m address := by
  have heach : readEach m' (consecutive address 8) = readEach m (consecutive address 8) := by
    refine readEach_congr fun x hmem => h.readByte_eq ?_
    obtain ⟨i, hi, rfl⟩ := mem_consecutive.mp hmem
    have hnat : (address + UInt64.ofNat i).toNat = address.toNat + i := by
      rw [UInt64.toNat_add, UInt64.toNat_ofNat_of_lt' (show i < 2 ^ 64 by omega), Nat.mod_eq_of_lt (by omega)]
    rw [hnat]
    exact hx _ (Nat.le_add_right _ _) (by omega)
  rw [readGuestU64, readGuestU64, BytewiseMemory.read_eq m' hend, BytewiseMemory.read_eq m hend, heach]

end WritesIn

end Frame

end GuideXOS.Core
