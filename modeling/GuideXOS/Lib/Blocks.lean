import Mathlib.Data.List.Basic
import Mathlib.Tactic.Linarith

/-!
# `Blocks` — a byte string cut into blocks, and strings laid out one behind the other

A byte string is stored in blocks of `b` bytes, the last one filled up with zeros. The blocks together are the string
and its padding (`flatten_blocksOf`), and a piece of the string that does not cross a block lies in one of them
(`piece_blockAt`). Several strings are laid out one behind the other, each from a block of its own.
-/

namespace Lib.Blocks

/-! ## Blocks of one string -/

/-- How many blocks of `b` bytes hold `size` bytes. -/
def blockCount (b size : Nat) : Nat := (size + b - 1) / b

/-- A block: the bytes, and zeros behind them. -/
def pad (b : Nat) (bytes : List UInt8) : List UInt8 := bytes ++ List.replicate (b - bytes.length) 0

def blockAt (b : Nat) (bytes : List UInt8) (i : Nat) : List UInt8 := pad b ((bytes.drop (i * b)).take b)

def blocksOf (b : Nat) (bytes : List UInt8) : List (List UInt8) :=
  (List.range (blockCount b bytes.length)).map (blockAt b bytes)

section
variable {b : Nat} {bytes : List UInt8}

theorem blockCount_zero (hb : 0 < b) : blockCount b 0 = 0 := by
  rw [blockCount, Nat.zero_add]
  exact Nat.div_eq_of_lt (by omega)

theorem le_blockCount_mul (hb : 0 < b) (size : Nat) : size ≤ blockCount b size * b := by
  have hmod := Nat.div_add_mod (size + b - 1) b
  have hlt := Nat.mod_lt (size + b - 1) hb
  rw [Nat.mul_comm] at hmod
  rw [blockCount]
  omega

theorem blockCount_mul_lt (hb : 0 < b) (size : Nat) : blockCount b size * b < size + b := by
  have hle := Nat.div_mul_le_self (size + b - 1) b
  rw [blockCount]
  omega

theorem lt_blockCount_iff (hb : 0 < b) {i size : Nat} : i < blockCount b size ↔ i * b < size := by
  rw [blockCount, Nat.lt_iff_add_one_le, Nat.le_div_iff_mul_le hb, Nat.add_mul]
  omega

theorem blockCount_pos_iff (hb : 0 < b) {size : Nat} : 0 < blockCount b size ↔ 0 < size := by
  rw [lt_blockCount_iff hb, Nat.zero_mul]

/-- A whole block more. -/
theorem blockCount_add (hb : 0 < b) (size : Nat) : blockCount b (b + size) = blockCount b size + 1 := by
  rw [blockCount, blockCount, show b + size + b - 1 = size + b - 1 + b by omega, Nat.add_div_right _ hb]

theorem length_pad (h : bytes.length ≤ b) : (pad b bytes).length = b := by
  rw [pad, List.length_append, List.length_replicate]
  omega

theorem length_blockAt (bytes : List UInt8) (i : Nat) : (blockAt b bytes i).length = b :=
  length_pad (by rw [List.length_take]; exact Nat.min_le_left _ _)

theorem length_of_mem_blocksOf {block : List UInt8} (h : block ∈ blocksOf b bytes) : block.length = b := by
  obtain ⟨i, -, rfl⟩ := List.mem_map.mp h
  exact length_blockAt bytes i

theorem length_blocksOf (bytes : List UInt8) : (blocksOf b bytes).length = blockCount b bytes.length := by
  rw [blocksOf, List.length_map, List.length_range]

theorem getElem?_blocksOf {i : Nat} (hi : i < blockCount b bytes.length) :
    (blocksOf b bytes)[i]? = some (blockAt b bytes i) := by
  rw [blocksOf, List.getElem?_map, List.getElem?_range hi]
  rfl

/-- The blocks of a string behind its first block are those of the rest. -/
theorem blocksOf_drop (hb : 0 < b) (h : bytes ≠ []) :
    blocksOf b bytes = pad b (bytes.take b) :: blocksOf b (bytes.drop b) := by
  have hcount : blockCount b bytes.length = blockCount b (bytes.drop b).length + 1 := by
    rw [List.length_drop]
    by_cases hle : b ≤ bytes.length
    · rw [← blockCount_add hb, Nat.add_sub_cancel' hle]
    · have hpos := List.length_pos_iff.mpr h
      rw [Nat.sub_eq_zero_of_le (by omega), blockCount_zero hb, blockCount, Nat.zero_add]
      exact Nat.div_eq_of_lt_le (by omega) (by omega)
  rw [blocksOf, hcount, List.range_succ_eq_map, List.map_cons, List.map_map]
  refine congrArg₂ List.cons ?_ ?_
  · rw [blockAt, Nat.zero_mul, List.drop_zero]
  · refine List.map_congr_left fun i _ => ?_
    rw [Function.comp_apply, blockAt, blockAt, List.drop_drop, Nat.succ_mul, Nat.add_comm]

/-- **The blocks of a string** are the string and the padding of its last block. -/
theorem flatten_blocksOf (hb : 0 < b) (bytes : List UInt8) :
    (blocksOf b bytes).flatten =
      bytes ++ List.replicate (blockCount b bytes.length * b - bytes.length) 0 := by
  induction hn : bytes.length using Nat.strong_induction_on generalizing bytes with
  | _ n ih =>
    by_cases hnil : bytes = []
    · subst hnil
      subst hn
      rw [blocksOf, List.length_nil, blockCount_zero hb, Nat.zero_mul]
      rfl
    · have hpos := List.length_pos_iff.mpr hnil
      rw [blocksOf_drop hb hnil, List.flatten_cons]
      by_cases hle : b ≤ bytes.length
      · have hrest := ih (bytes.drop b).length (by rw [List.length_drop]; omega) (bytes.drop b) rfl
        rw [hrest, pad, List.length_take, Nat.min_eq_left hle, Nat.sub_self, List.replicate_zero, List.append_nil,
          ← List.append_assoc, List.take_append_drop, List.length_drop, ← hn]
        congr 2
        obtain ⟨k, hk⟩ := Nat.exists_eq_add_of_le hle
        rw [hk, Nat.add_sub_cancel_left, blockCount_add hb, Nat.succ_mul]
        omega
      · rw [List.take_of_length_le (by omega), List.drop_eq_nil_of_le (by omega), pad]
        rw [blocksOf, List.length_nil, blockCount_zero hb]
        have hone : blockCount b n = 1 := by
          rw [blockCount]
          exact Nat.div_eq_of_lt_le (by omega) (by omega)
        rw [hone, Nat.one_mul, ← hn]
        exact List.append_nil _

/-- **A piece inside one block** is that piece of the string. -/
theorem piece_blockAt {i offset count : Nat} (hblock : offset + count ≤ b)
    (hbytes : i * b + offset + count ≤ bytes.length) :
    ((blockAt b bytes i).drop offset).take count = (bytes.drop (i * b + offset)).take count := by
  have hlen : offset + count ≤ ((bytes.drop (i * b)).take b).length := by
    rw [List.length_take, List.length_drop]
    omega
  rw [blockAt, pad, List.drop_append_of_le_length (by omega),
    List.take_append_of_le_length (by rw [List.length_drop]; omega), List.drop_take, List.take_take, List.drop_drop,
    Nat.min_eq_left (by omega)]

end

/-! ## Pieces of one size -/

section
variable {α : Type _} {f : α → List UInt8} {c : Nat} {l : List α}

theorem length_flatMap_of_size (h : ∀ a ∈ l, (f a).length = c) : (l.flatMap f).length = l.length * c := by
  induction l with
  | nil => rw [List.flatMap_nil, List.length_nil, List.length_nil, Nat.zero_mul]
  | cons a l ih =>
      obtain ⟨ha, hl⟩ := List.forall_mem_cons.mp h
      rw [List.flatMap_cons, List.length_append, ha, ih hl, List.length_cons, Nat.succ_mul, Nat.add_comm]

theorem drop_flatMap_of_size (h : ∀ a ∈ l, (f a).length = c) (k : Nat) :
    (l.flatMap f).drop (k * c) = (l.drop k).flatMap f := by
  induction l generalizing k with
  | nil => rw [List.drop_nil, List.flatMap_nil, List.drop_nil]
  | cons a l ih =>
      obtain ⟨ha, hl⟩ := List.forall_mem_cons.mp h
      cases k with
      | zero => rw [Nat.zero_mul, List.drop_zero, List.drop_zero]
      | succ k => rw [List.flatMap_cons, Nat.succ_mul, Nat.add_comm, ← List.drop_drop, ← ha, List.drop_left, ha, ih hl k,
          List.drop_succ_cons]

theorem take_flatMap_of_size (h : ∀ a ∈ l, (f a).length = c) (k : Nat) :
    (l.flatMap f).take (k * c) = (l.take k).flatMap f := by
  induction l generalizing k with
  | nil => rw [List.take_nil, List.flatMap_nil, List.take_nil]
  | cons a l ih =>
      obtain ⟨ha, hl⟩ := List.forall_mem_cons.mp h
      cases k with
      | zero => rw [Nat.zero_mul, List.take_zero, List.take_zero, List.flatMap_nil]
      | succ k => rw [List.flatMap_cons, Nat.succ_mul, Nat.add_comm, List.take_add, ← ha, List.take_left, List.drop_left,
          ha, ih hl k, List.take_succ_cons, List.flatMap_cons]

end

/-! ## A string as the blocks of a disk -/

/-- Block `i` of a string that fills its blocks. -/
def blockIn (b : Nat) (bytes : List UInt8) (i : Nat) : List UInt8 := (bytes.drop (i * b)).take b

section
variable {b : Nat} {bytes : List UInt8}

theorem length_blockIn {i : Nat} (h : (i + 1) * b ≤ bytes.length) : (blockIn b bytes i).length = b := by
  rw [Nat.succ_mul] at h
  rw [blockIn, List.length_take, List.length_drop]
  omega

/-- Blocks that follow one another are a piece of the string. -/
theorem flatMap_blockIn (n count : Nat) :
    (List.range' n count).flatMap (blockIn b bytes) = (bytes.drop (n * b)).take (count * b) := by
  induction count generalizing n with
  | zero => rw [Nat.zero_mul, List.take_zero]; rfl
  | succ count ih =>
      have hcount : (count + 1) * b = b + count * b := by rw [Nat.succ_mul, Nat.add_comm]
      rw [List.range'_succ, List.flatMap_cons, ih, hcount, List.take_add, List.drop_drop, ← Nat.succ_mul]
      rfl

theorem length_put {source : List UInt8} {p k : Nat} (hp : p + k ≤ bytes.length) (hk : k ≤ source.length) :
    (bytes.take p ++ source.take k ++ bytes.drop (p + k)).length = bytes.length := by
  simp only [List.length_append, List.length_take, List.length_drop]
  omega

/-- Putting `k` blocks of another string in place from block `n` on changes these blocks alone. -/
theorem blockIn_splices {source : List UInt8} {n k : Nat} (hn : n * b + k * b ≤ bytes.length)
    (hsource : k * b ≤ source.length) (i : Nat) :
    blockIn b (bytes.take (n * b) ++ source.take (k * b) ++ bytes.drop (n * b + k * b)) i =
      if n ≤ i ∧ i < n + k then blockIn b source (i - n) else blockIn b bytes i := by
  have htake : (bytes.take (n * b)).length = n * b := by
    rw [List.length_take]
    omega
  have hput : (source.take (k * b)).length = k * b := by
    rw [List.length_take]
    omega
  by_cases hbefore : i < n
  · have hle : i * b + b ≤ n * b := by
      rw [← Nat.succ_mul]
      exact Nat.mul_le_mul_right b hbefore
    rw [if_neg (by omega), blockIn, List.append_assoc, List.drop_append_of_le_length (by omega),
      List.take_append_of_le_length (by rw [List.length_drop]; omega), List.drop_take, List.take_take,
      Nat.min_eq_left (by omega), blockIn]
  obtain ⟨j, rfl⟩ := Nat.exists_eq_add_of_le (Nat.not_lt.mp hbefore)
  have hdrop : (bytes.take (n * b) ++ source.take (k * b) ++ bytes.drop (n * b + k * b)).drop ((n + j) * b) =
      (source.take (k * b) ++ bytes.drop (n * b + k * b)).drop (j * b) := by
    rw [List.append_assoc, Nat.add_mul, ← List.drop_drop, List.drop_left' htake]
  rw [blockIn, hdrop]
  by_cases hinside : j < k
  · have hle : j * b + b ≤ k * b := by
      rw [← Nat.succ_mul]
      exact Nat.mul_le_mul_right b hinside
    rw [if_pos ⟨Nat.le_add_right n j, by omega⟩, Nat.add_sub_cancel_left,
      List.drop_append_of_le_length (by omega), List.take_append_of_le_length (by rw [List.length_drop]; omega),
      List.drop_take, List.take_take, Nat.min_eq_left (by omega), blockIn]
  · obtain ⟨l, rfl⟩ := Nat.exists_eq_add_of_le (Nat.not_lt.mp hinside)
    rw [if_neg (by omega), Nat.add_mul k, ← List.drop_drop, List.drop_left' hput, List.drop_drop, blockIn]
    congr 2
    rw [Nat.add_mul, Nat.add_mul]
    omega

/-- Putting a block in place of another changes that block alone. -/
theorem blockIn_splice {block : List UInt8} {n : Nat} (hlength : block.length = b) (hn : n * b + b ≤ bytes.length)
    (k : Nat) : blockIn b (bytes.take (n * b) ++ block ++ bytes.drop (n * b + block.length)) k =
      if k = n then block else blockIn b bytes k := by
  have hone : block.take (1 * b) = block := by
    rw [Nat.one_mul, ← hlength, List.take_length]
  have hsplices := @blockIn_splices b bytes block n 1 (by omega) (by omega) k
  rw [hone, Nat.one_mul] at hsplices
  rw [hlength, hsplices]
  by_cases hk : k = n
  · rw [if_pos (by omega), if_pos hk, hk, Nat.sub_self, blockIn, Nat.zero_mul, List.drop_zero,
      List.take_of_length_le (Nat.le_of_eq hlength)]
  · rw [if_neg (by omega), if_neg hk]

end

end Lib.Blocks
