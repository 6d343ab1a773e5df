import GuideXOS.Storage.ByteAccess
import GuideXOS.Storage.BlockDevice

/-!
# `BlockTransfers` — block devices as arrays of blocks

A device in memory is a string of bytes cut into blocks. `Exact` says what a request must do for every buffer that is
large enough: it transfers exactly the blocks it answers for and touches nothing else, and a request that no device
could serve transfers nothing. Each device is exact for the requests whose products and sums do not wrap around into
its store (`Meets`), and a run of such writes leaves in every block what was written there last (`run_exact`).
-/

namespace GuideXOS.Storage
open Lib.Blocks

/-! ## What a request must do -/

/-- What a device looks like to its callers. -/
structure Shape where
  connected : Bool
  blockSize : Nat
  size : Nat

/-- A device whose store is a string of bytes. -/
class ByteStore (δ : Type _) [IStorageDevice δ] where
  shape : δ → Shape
  contents : δ → List UInt8
  length_contents : ∀ d, (contents d).length = (shape d).size

export ByteStore (shape contents)

/-- The blocks a result stands for; an error stands for none. -/
def transferred (result : Int64) : Nat := result.toInt.toNat

/-- The range or its length is no 64-bit number, or the range begins behind the end. -/
def MustRefuse (b size n count : Nat) : Prop := 2 ^ 64 ≤ n + count ∨ 2 ^ 64 ≤ count * b ∨ size ≤ n * b

/-- `k` is an answer to a request for `count` blocks from block `n` on. -/
structure Answers (b size n count k : Nat) : Prop where
  le : k ≤ count
  inside : ∀ i, n ≤ i → i < n + k → i * b < size
  refuses : MustRefuse b size n count → k = 0

/-- Block `i` once `k` blocks from block `n` on are those of a string. -/
def putBlocks (b n k : Nat) (source : List UInt8) (blocks : Nat → List UInt8) (i : Nat) : List UInt8 :=
  if n ≤ i ∧ i < n + k then blockIn b source (i - n) else blocks i

section
variable {δ : Type _} [IStorageDevice δ] [ByteStore δ]

/-- The blocks of a device. -/
def blocks (d : δ) : Nat → List UInt8 := blockIn (shape d).blockSize (contents d)

def ReadsExactly (d : δ) (n count : UInt64) (buffer : List UInt8) : Prop :=
  ∃ result left, IStorageDevice.readBlocks d n count buffer = .returned result left ∧
    Answers (shape d).blockSize (shape d).size n.toNat count.toNat (transferred result) ∧
    left = (List.range' n.toNat (transferred result)).flatMap (blocks d) ++
      buffer.drop ((List.range' n.toNat (transferred result)).flatMap (blocks d)).length

def WritesExactly (d : δ) (n count : UInt64) (source : List UInt8) : Prop :=
  ∃ result d', IStorageDevice.writeBlocks d n count source = .returned result d' ∧
    Answers (shape d).blockSize (shape d).size n.toNat count.toNat (transferred result) ∧
    shape d' = shape d ∧
    ∀ i, blocks d' i = putBlocks (shape d).blockSize n.toNat (transferred result) source (blocks d) i

/-- The caller's side: the buffer holds the blocks that are asked for. -/
def Holds (d : δ) (count : UInt64) (buffer : List UInt8) : Prop := count.toNat * (shape d).blockSize ≤ buffer.length

/-- **A request is served exactly**, whatever the buffer holds. -/
def Exact (d : δ) (n count : UInt64) : Prop :=
  ∀ buffer, Holds d count buffer → ReadsExactly d n count buffer ∧ WritesExactly d n count buffer

end

/-! ## Serving a request -/

theorem transferred_toInt64 (x : UInt64) : transferred x.toInt64 = if x.toNat < 2 ^ 63 then x.toNat else 0 := by
  rw [transferred]
  split
  case isTrue hlt => rw [toInt_toInt64 hlt, Int.toNat_natCast]
  case isFalse hge =>
    have hneg : x.toBitVec.toInt < 0 := by
      have := x.toNat_lt
      rw [BitVec.toInt_eq_toNat_cond, if_neg (by rw [UInt64.toNat_toBitVec]; omega), UInt64.toNat_toBitVec]
      omega
    exact Int.toNat_eq_zero.mpr (Int.le_of_lt hneg)

/-- Nothing is an answer to every request. -/
theorem answers_zero (b size n count : Nat) : Answers b size n count 0 where
  le := Nat.zero_le _
  inside i hle hlt := absurd hlt (by omega)
  refuses _ := rfl

theorem not_mustRefuse_iff {b size n count : Nat} :
    ¬ MustRefuse b size n count ↔ n + count < 2 ^ 64 ∧ count * b < 2 ^ 64 ∧ n * b < size := by
  rw [MustRefuse, not_or, not_or, Nat.not_le, Nat.not_le, Nat.not_le]

/-- Blocks that end before the device does. -/
theorem answers_of_le {b size n count k : Nat} (hk : k ≤ count) (hallowed : ¬ MustRefuse b size n count)
    (hlast : (n + k) * b ≤ size) : Answers b size n count k where
  le := hk
  refuses hmust := absurd hmust hallowed
  inside i _ hi := by
    rw [not_mustRefuse_iff] at hallowed
    rcases Nat.eq_zero_or_pos b with rfl | hpos
    · rw [Nat.mul_zero] at hallowed ⊢
      exact hallowed.2.2
    · have hnext : (i + 1) * b ≤ (n + k) * b := Nat.mul_le_mul_right _ hi
      rw [Nat.succ_mul] at hnext
      omega

section
variable {δ : Type _} [IStorageDevice δ] [ByteStore δ] {d : δ} {n count : UInt64} {buffer : List UInt8} {result : Int64}

/-- A read that gives no blocks and leaves the buffer alone. -/
theorem ReadsExactly.of_refused (hread : IStorageDevice.readBlocks d n count buffer = .returned result buffer)
    (hresult : transferred result = 0) : ReadsExactly d n count buffer := by
  refine ⟨result, buffer, hread, ?_, ?_⟩
  · rw [hresult]
    exact answers_zero _ _ _ _
  · rw [hresult]
    rfl

/-- A read that copies its blocks, as far as the store goes. -/
theorem ReadsExactly.of_copied {k offset copied : Nat} (hread : IStorageDevice.readBlocks d n count buffer =
      .returned result (((contents d).drop offset).take copied ++ buffer.drop copied))
    (hresult : transferred result = k) (hoffset : offset = n.toNat * (shape d).blockSize)
    (hcopied : copied = min (k * (shape d).blockSize) ((shape d).size - offset))
    (hanswers : Answers (shape d).blockSize (shape d).size n.toNat count.toNat k) : ReadsExactly d n count buffer := by
  have hblocks : (List.range' n.toNat k).flatMap (blocks d) = ((contents d).drop offset).take copied := by
    rw [blocks, flatMap_blockIn, ← hoffset, hcopied, ByteStore.length_contents d |>.symm, ← List.length_drop,
      ← List.take_eq_take_min]
  have hlength : (((contents d).drop offset).take copied).length = copied := by
    rw [List.length_take, List.length_drop, ByteStore.length_contents, hcopied]
    omega
  refine ⟨result, _, hread, ?_, ?_⟩
  · rw [hresult]
    exact hanswers
  · rw [hresult, hblocks, hlength]

theorem WritesExactly.of_refused (hwrite : IStorageDevice.writeBlocks d n count buffer = .returned result d)
    (hresult : transferred result = 0) : WritesExactly d n count buffer := by
  refine ⟨result, d, hwrite, ?_, rfl, fun i => ?_⟩
  · rw [hresult]
    exact answers_zero _ _ _ _
  · rw [hresult, putBlocks, if_neg (by omega)]

/-- A write that puts its blocks in place. -/
theorem WritesExactly.of_put {d' : δ} {k : Nat}
    (hwrite : IStorageDevice.writeBlocks d n count buffer = .returned result d') (hresult : transferred result = k)
    (hshape : shape d' = shape d) (hcontents : contents d' = (contents d).take (n.toNat * (shape d).blockSize) ++
      buffer.take (k * (shape d).blockSize) ++
      (contents d).drop (n.toNat * (shape d).blockSize + k * (shape d).blockSize))
    (hinside : n.toNat * (shape d).blockSize + k * (shape d).blockSize ≤ (shape d).size)
    (hbuffer : k * (shape d).blockSize ≤ buffer.length)
    (hanswers : Answers (shape d).blockSize (shape d).size n.toNat count.toNat k) : WritesExactly d n count buffer := by
  refine ⟨result, d', hwrite, ?_, hshape, fun i => ?_⟩
  · rw [hresult]
    exact hanswers
  · rw [← ByteStore.length_contents] at hinside
    rw [hresult, blocks, hshape, hcontents, blockIn_splices hinside hbuffer, putBlocks]
    rfl

/-- Where copied bytes do not depend on the buffer and every buffer is left as it was, nothing was copied. -/
theorem copied_nothing {piece : List UInt8} {m : Nat} (hpos : 0 < m)
    (h : ∀ x, piece ++ (List.replicate m x).drop piece.length = List.replicate m x) : piece = [] := by
  cases piece with
  | nil => rfl
  | cons byte rest =>
      obtain ⟨m, rfl⟩ := Nat.exists_eq_succ_of_ne_zero (Nat.ne_of_gt hpos)
      have hhead := h (byte + 1)
      rw [List.replicate_succ, List.cons_append, List.cons.injEq] at hhead
      have hne : byte ≠ byte + 1 := by
        intro heq
        have hnat := congrArg UInt8.toNat heq
        have := byte.toNat_lt
        rw [UInt8.toNat_add, UInt8.toNat_one] at hnat
        omega
      exact absurd hhead.1 hne

/-- A buffer of one byte more than is asked for. -/
def canvas (d : δ) (count : UInt64) (x : UInt8) : List UInt8 :=
  List.replicate (count.toNat * (shape d).blockSize + 1) x

theorem canvas_ne_nil (d : δ) (count : UInt64) (x : UInt8) : canvas d count x ≠ [] := List.cons_ne_nil _ _

theorem holds_canvas (d : δ) (count : UInt64) (x : UInt8) : Holds d count (canvas d count x) := by
  rw [Holds, canvas, List.length_replicate]
  exact Nat.le_succ _

/-- Exactness rules out undefined behaviour. -/
theorem Exact.not_undefined (h : Exact d n count) (x : UInt8) :
    IStorageDevice.readBlocks d n count (canvas d count x) ≠ .undefined := by
  intro hread
  obtain ⟨_, _, hread', -⟩ := (h _ (holds_canvas d count x)).1
  rw [hread] at hread'
  cases hread'

/-- **What exactness forces** where the same bytes are copied into every buffer: the copy stays inside, and the request
need not be refused, or nothing is copied. -/
theorem Exact.copied (h : Exact d n count) {offset copied : Nat} (hle : copied ≤ count.toNat * (shape d).blockSize)
    (hread : ∀ x, IStorageDevice.readBlocks d n count (canvas d count x) =
      if copied ≤ (canvas d count x).length ∧ offset + copied ≤ (shape d).size then
        .returned result (((contents d).drop offset).take copied ++ (canvas d count x).drop copied)
      else .undefined) :
    offset + copied ≤ (shape d).size ∧ ((transferred result = 0 ∧ copied = 0) ∨
      (n.toNat + count.toNat < 2 ^ 64 ∧ count.toNat * (shape d).blockSize < 2 ^ 64 ∧
        n.toNat * (shape d).blockSize < (shape d).size)) := by
  have hinside : offset + copied ≤ (shape d).size := by
    by_contra hbeyond
    exact h.not_undefined 0 ((hread 0).trans (if_neg fun hboth => hbeyond hboth.2))
  replace hread := fun x => (hread x).trans (if_pos ⟨Nat.le_trans hle (holds_canvas d count x), hinside⟩)
  refine ⟨hinside, ?_⟩
  rw [← not_mustRefuse_iff]
  have hserved : ∀ x, Answers (shape d).blockSize (shape d).size n.toNat count.toNat (transferred result) ∧
      (transferred result = 0 →
        ((contents d).drop offset).take copied ++ (canvas d count x).drop copied = canvas d count x) := by
    intro x
    obtain ⟨result', left, hread', hanswers, hleft⟩ := (h _ (holds_canvas d count x)).1
    rw [hread x] at hread'
    cases hread'
    refine ⟨hanswers, fun hzero => ?_⟩
    rw [hzero] at hleft
    exact hleft
  rcases Nat.eq_zero_or_pos (transferred result) with hzero | hpos
  · left
    have hlength : (((contents d).drop offset).take copied).length = copied := by
      rw [List.length_take, List.length_drop, ByteStore.length_contents]
      omega
    have hnothing := copied_nothing (Nat.succ_pos _) fun x => by
      have := (hserved x).2 hzero
      rw [hlength]
      exact this
    rw [hnothing] at hlength
    exact ⟨hzero, hlength.symm⟩
  · refine .inr fun hmust => ?_
    have := (hserved 0).1.refuses hmust
    omega

end

/-! ## Runs of writes -/

structure Write where
  blockNumber : UInt64
  blockCount : UInt64
  source : List UInt8

/-- The block that the last of the writes to it left, if any. The latest write comes first. -/
def lastWritten (b : Nat) : List (Write × Nat) → Nat → Option (List UInt8)
  | [], _ => none
  | (write, k) :: earlier, i =>
      if write.blockNumber.toNat ≤ i ∧ i < write.blockNumber.toNat + k then
        some (blockIn b write.source (i - write.blockNumber.toNat))
      else lastWritten b earlier i

section
variable {δ : Type _} [IStorageDevice δ] [ByteStore δ]

/-- The writes one after the other, the latest first, each with the number of its blocks. -/
def writeAll (d : δ) : List Write → Option (List (Write × Nat) × δ)
  | [] => some ([], d)
  | write :: earlier =>
      match writeAll d earlier with
      | none => none
      | some (past, d') =>
          match IStorageDevice.writeBlocks d' write.blockNumber write.blockCount write.source with
          | .returned result d'' => some ((write, transferred result) :: past, d'')
          | _ => none

/-- **Runs.** Where every request that meets a condition on the device's shape is served exactly, a run of such writes
is never undefined, and what a later read returns are the bytes last written. -/
theorem run_exact {Meets : Shape → UInt64 → UInt64 → Prop}
    (hexact : ∀ (d : δ) n count, Meets (shape d) n count → Exact d n count) (d : δ) (writes : List Write)
    (hwrites : ∀ write ∈ writes, Meets (shape d) write.blockNumber write.blockCount ∧
      Holds d write.blockCount write.source) :
    ∃ past d', writeAll d writes = some (past, d') ∧ past.map Prod.fst = writes ∧ shape d' = shape d ∧
      ∀ i, blocks d' i = (lastWritten (shape d).blockSize past i).getD (blocks d i) := by
  induction writes with
  | nil => exact ⟨[], d, rfl, rfl, rfl, fun _ => rfl⟩
  | cons write earlier ih =>
      obtain ⟨⟨hmeets, hholds⟩, hearlier⟩ := List.forall_mem_cons.mp hwrites
      obtain ⟨past, d', hrun, hpast, hshape, hblocks⟩ := ih hearlier
      rw [← hshape] at hmeets
      have hholds' : Holds d' write.blockCount write.source := by
        rw [Holds, hshape]
        exact hholds
      obtain ⟨result, d'', hwrite, -, hshape', hput⟩ := (hexact d' _ _ hmeets write.source hholds').2
      refine ⟨(write, transferred result) :: past, d'', ?_, ?_, hshape'.trans hshape, fun i => ?_⟩
      · rw [writeAll, hrun]
        dsimp only
        rw [hwrite]
      · rw [List.map_cons, hpast]
      · -- the latest write is looked at first
        rw [hput, putBlocks, lastWritten, hshape]
        split
        · rfl
        · exact hblocks i

end

end GuideXOS.Storage
