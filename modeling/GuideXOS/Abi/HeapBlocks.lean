import GuideXOS.Abi.LibCBridge
import GuideXOS.Lib.Extents

/-!
# `HeapBlocks` — the block table

The table is kept sorted, its blocks are aligned, not empty, apart from each other and below the heap pointer
(`TableSound`). One lemma for each operation says which blocks are in use afterwards: `malloc_cases`,
`TableSound.malloc`, `TableSound.free`, `TableSound.shrink`.
-/

namespace GuideXOS.Abi
open Lib.Words Lib.Merging Lib.Extents Lib.Extents.Extent

namespace LibCBridge

/-- The addresses of a block. -/
def extentOf (b : LibCAllocBlock) : Extent := ⟨b.address.toNat, b.address.toNat + b.size.toNat⟩

def InUse (bridge : LibCBridge) (b : LibCAllocBlock) : Prop := b ∈ bridge.allocations ∧ b.inUse = true

/-- `a` ends where `b` starts, or before. -/
def Before (a b : LibCAllocBlock) : Prop := (extentOf a).stop ≤ (extentOf b).start

structure BlockSound (lo hi : Nat) (b : LibCAllocBlock) : Prop where
  aligned : b.address.toNat % 16 = 0
  size_aligned : b.size.toNat % 16 = 0
  pos : 0 < b.size.toNat
  start : lo ≤ (extentOf b).start
  stop : (extentOf b).stop ≤ hi

structure TableSound (bridge : LibCBridge) : Prop where
  mem : ∀ b ∈ bridge.allocations, BlockSound bridge.heapStart.toNat bridge.heapCurrent.toNat b
  sorted : bridge.allocations.Pairwise Before
  current_aligned : bridge.heapCurrent.toNat % 16 = 0
  start_pos : 0 < bridge.heapStart.toNat
  start_le : bridge.heapStart.toNat ≤ bridge.heapCurrent.toNat
  le_end : bridge.heapCurrent.toNat ≤ bridge.heapEnd.toNat

theorem tableSound_initialized (abi : Option LinuxABI) : TableSound (initialized abi) where
  mem := List.forall_mem_nil _
  sorted := List.Pairwise.nil
  current_aligned := show LIBC_HEAP_START.toNat % 16 = 0 by decide
  start_pos := show 0 < LIBC_HEAP_START.toNat by decide
  start_le := Nat.le_refl _
  le_end := show LIBC_HEAP_START.toNat ≤ (LIBC_HEAP_START + LIBC_HEAP_SIZE).toNat by decide

section Table
variable {bridge : LibCBridge} {b c : LibCAllocBlock} {lo hi : Nat} {size : UInt64}

theorem Before.apart (h : Before b c) : Apart (extentOf b) (extentOf c) := apart_iff.mpr (.inl h)

/-- Two blocks of the table are one or share no address. -/
theorem TableSound.apart (h : TableSound bridge) (hb : b ∈ bridge.allocations) (hc : c ∈ bridge.allocations)
    (hne : b ≠ c) : Apart (extentOf b) (extentOf c) := by
  have hpair : bridge.allocations.Pairwise fun x y => Apart (extentOf x) (extentOf y) :=
    h.sorted.imp fun hbefore => hbefore.apart
  have : Std.Symm fun x y => Apart (extentOf x) (extentOf y) := ⟨fun _ _ h => h.symm⟩
  exact hpair.forall hb hc hne

/-- A block is known by its address. -/
theorem TableSound.eq_of_address (h : TableSound bridge) (hb : b ∈ bridge.allocations) (hc : c ∈ bridge.allocations)
    (haddress : b.address = c.address) : b = c := by
  by_contra hne
  refine h.apart hb hc hne b.address.toNat ⟨⟨Nat.le_refl _, ?_⟩, ⟨?_, ?_⟩⟩
  · exact Nat.lt_add_of_pos_right (h.mem b hb).pos
  · exact (congrArg UInt64.toNat haddress).ge
  · rw [haddress]
    exact Nat.lt_add_of_pos_right (h.mem c hc).pos

/-- Addresses of a block do not wrap around. -/
theorem BlockSound.address_add (h : BlockSound lo hi b) (hhi : hi < 2 ^ 64) {i : Nat} (hi' : i < b.size.toNat) :
    (b.address + UInt64.ofNat i).toNat = b.address.toNat + i := by
  have hstop := h.stop
  simp only [extentOf] at hstop
  have hsmall : i < 2 ^ 64 := hi'.trans b.size.toNat_lt
  rw [UInt64.toNat_add, UInt64.toNat_ofNat_of_lt' hsmall, Nat.mod_eq_of_lt (by omega)]

/-- **Changing one block** of the table into one that is no longer, at the same address. -/
theorem TableSound.replace (h : TableSound bridge) {pre post : List LibCAllocBlock}
    (hsplit : bridge.allocations = pre ++ b :: post) (b' : LibCAllocBlock) (haddress : b'.address = b.address)
    (hle : b'.size.toNat ≤ b.size.toNat) (haligned : b'.size.toNat % 16 = 0) (hpos : 0 < b'.size.toNat) :
    (∀ c ∈ pre ++ b' :: post, BlockSound bridge.heapStart.toNat bridge.heapCurrent.toNat c) ∧
      (pre ++ b' :: post).Pairwise Before ∧
      ∀ c, c ∈ pre ++ b' :: post ↔ (c ∈ bridge.allocations ∧ c ≠ b) ∨ c = b' := by
  have hb : b ∈ bridge.allocations := by
    rw [hsplit]
    exact List.mem_append_right _ List.mem_cons_self
  have hsorted := h.sorted
  rw [hsplit] at hsorted
  have hmem : ∀ c, c ∈ pre ++ b' :: post ↔ (c ∈ bridge.allocations ∧ c ≠ b) ∨ c = b' := by
    intro c
    have honce : c ∈ pre ∨ c ∈ post → c ≠ b := by
      rintro hc rfl
      -- a block of a sorted table occurs once
      obtain ⟨-, hpost, hcross⟩ := List.pairwise_append.mp hsorted
      have hself : Before c c := by
        rcases hc with hpre | hpost'
        · exact hcross c hpre c List.mem_cons_self
        · exact (List.pairwise_cons.mp hpost).1 c hpost'
      have := (h.mem c hb).pos
      simp only [Before, extentOf] at hself
      omega
    rw [hsplit]
    simp only [List.mem_append, List.mem_cons]
    tauto
  refine ⟨fun c hc => ?_, ?_, hmem⟩
  · rcases (hmem c).mp hc with ⟨hc, -⟩ | rfl
    · exact h.mem c hc
    · obtain ⟨hbaligned, -, -, hstart, hstop⟩ := h.mem b hb
      refine ⟨haddress ▸ hbaligned, haligned, hpos, ?_, ?_⟩
      all_goals
        simp only [extentOf] at hstart hstop ⊢
        rw [haddress]
        omega
  · refine pairwise_replace (fun c hc => ?_) (fun c hc => ?_) hsorted
    all_goals
      simp only [Before, extentOf] at hc ⊢
      rw [haddress]
      omega

/-- Blocks that share no address share none of their bytes. -/
theorem BlockSound.address_ne (hb : BlockSound lo hi b) (hc : BlockSound lo hi c) (hhi : hi < 2 ^ 64)
    (hapart : Apart (extentOf b) (extentOf c)) {i j : Nat} (hi' : i < b.size.toNat) (hj : j < c.size.toNat) :
    b.address + UInt64.ofNat i ≠ c.address + UInt64.ofNat j := by
  intro hsame
  have hnat := congrArg UInt64.toNat hsame
  rw [hb.address_add hhi hi', hc.address_add hhi hj] at hnat
  refine hapart (b.address.toNat + i) ⟨⟨?_, ?_⟩, ⟨?_, ?_⟩⟩
  all_goals
    simp only [extentOf]
    omega

/-! ## Rounding -/

theorem alignedSize_toNat (size : UInt64) : (alignedSize size).toNat = (size.toNat + 15) % 2 ^ 64 / 16 * 16 := by
  have hmask : LIBC_MALLOC_ALIGNMENT - 1 = lowMask 4 := by decide
  have hsum : size + LIBC_MALLOC_ALIGNMENT - 1 = size + 15 := by
    rw [UInt64.sub_eq_add_neg, UInt64.add_assoc]
    rfl
  rw [alignedSize, hsum, hmask, and_not_lowMask_toNat (by decide), UInt64.toNat_add]
  rfl

/-- What a rounded size is as long as the rounding does not wrap around. -/
theorem alignedSize_bounds (hsize : size ≠ 0) (hround : size.toNat + 15 < 2 ^ 64) :
    size.toNat ≤ (alignedSize size).toNat ∧ (alignedSize size).toNat % 16 = 0 ∧ 0 < (alignedSize size).toNat := by
  have hpos : 0 < size.toNat := Nat.pos_of_ne_zero fun h => hsize (UInt64.toNat_inj.mp h)
  rw [alignedSize_toNat, Nat.mod_eq_of_lt hround]
  omega

/-! ## Extending the heap -/

/-- The break is always granted. -/
theorem extendHeap_eq {additionalSize : UInt64} (hne : bridge.heapCurrent + additionalSize ≠ 0) :
    bridge.extendHeap additionalSize = match bridge.abi with
      | none => (false, bridge)
      | some abi => (true, { bridge with
          abi := some { abi with brkAddress := bridge.heapCurrent + additionalSize }
          heapEnd := bridge.heapCurrent + additionalSize }) := by
  unfold extendHeap
  cases bridge.abi with
  | none => rfl
  | some abi =>
      dsimp only
      rw [LinuxABI.sysBrk, if_neg hne]
      have hback : (bridge.heapCurrent + additionalSize).toInt64.toUInt64 = bridge.heapCurrent + additionalSize := rfl
      rw [if_pos (by
        show (true && decide _) = true
        rw [Bool.true_and, decide_eq_true_eq]
        exact UInt64.le_of_eq hback.symm)]
      rfl

/-! ## Taking a block -/

/-- **`Malloc`.** It takes a free block as a whole, or appends one at the heap pointer, or fails and changes
    nothing. -/
theorem malloc_cases (hsize : size ≠ 0) :
    (∃ pre b post, bridge.allocations = pre ++ b :: post ∧ b.inUse = false ∧ alignedSize size ≤ b.size ∧
      bridge.malloc size = (b.address, { bridge with allocations := pre ++ { b with inUse := true } :: post })) ∨
    (bridge.allocations.any (fits (alignedSize size)) = false ∧ ∃ abi heapEnd,
      bridge.heapCurrent + alignedSize size ≤ heapEnd ∧
      bridge.malloc size = (bridge.heapCurrent, { bridge with
        abi := abi
        heapEnd := heapEnd
        heapCurrent := bridge.heapCurrent + alignedSize size
        allocations := bridge.allocations ++ [⟨bridge.heapCurrent, alignedSize size, true⟩] })) ∨
    bridge.malloc size = (0, bridge) := by
  unfold malloc
  rw [if_neg hsize]
  dsimp only
  cases hfind : bridge.allocations.find? (fits (alignedSize size)) with
  | some b =>
      obtain ⟨pre, post, hsplit, hupdate⟩ :=
        updateFirst_split (f := fun block : LibCAllocBlock => { block with inUse := true }) hfind
      have hfits := List.find?_some hfind
      simp only [fits, Bool.and_eq_true, Bool.not_eq_true', decide_eq_true_eq] at hfits
      exact .inl ⟨pre, b, post, hsplit, hfits.1, hfits.2, by rw [hupdate]⟩
  | none =>
      have hany : bridge.allocations.any (fits (alignedSize size)) = false := by
        simpa [List.find?_eq_none] using hfind
      by_cases hroom : bridge.heapEnd < bridge.heapCurrent + alignedSize size
      · have hne : bridge.heapCurrent + alignedSize size ≠ 0 := by
          intro hzero
          rw [hzero] at hroom
          exact absurd hroom (not_lt.mpr UInt64.zero_le)
        rw [if_pos hroom, extendHeap_eq hne]
        cases bridge.abi with
        | none => exact .inr (.inr rfl)
        | some abi => exact .inr (.inl ⟨hany, _, _, UInt64.le_refl _, rfl⟩)
      · rw [if_neg hroom]
        exact .inr (.inl ⟨hany, bridge.abi, bridge.heapEnd, not_lt.mp hroom, rfl⟩)

/-- A request that neither its rounding nor the heap pointer wraps around for. -/
def Fits (bridge : LibCBridge) (size : UInt64) : Prop :=
  size.toNat + 15 < 2 ^ 64 ∧ (bridge.allocations.any (fits (alignedSize size)) = true ∨
    bridge.heapCurrent.toNat + (alignedSize size).toNat < 2 ^ 64)

instance (bridge : LibCBridge) (size : UInt64) : Decidable (Fits bridge size) :=
  inferInstanceAs (Decidable (_ ∧ (_ ∨ _)))

/-- What a request that succeeds does to the table. -/
structure Taken (bridge bridge' : LibCBridge) (size : UInt64) (taken : LibCAllocBlock) : Prop where
  fits : size ≤ taken.size
  start : bridge.heapStart = bridge'.heapStart
  sound : TableSound bridge'
  inUse : ∀ b, InUse bridge' b ↔ InUse bridge b ∨ b = taken
  apart : ∀ b, InUse bridge b → Apart (extentOf taken) (extentOf b)

theorem TableSound.take (h : TableSound bridge) {pre post : List LibCAllocBlock}
    (hsplit : bridge.allocations = pre ++ b :: post) (hfree : b.inUse = false) (hle : size ≤ b.size) :
    Taken bridge { bridge with allocations := pre ++ { b with inUse := true } :: post } size
      { b with inUse := true } := by
  have hb : b ∈ bridge.allocations := by
    rw [hsplit]
    exact List.mem_append_right _ List.mem_cons_self
  obtain ⟨-, hsize, hpos, -, -⟩ := h.mem b hb
  obtain ⟨hmem, hsorted, hiff⟩ := h.replace hsplit { b with inUse := true } rfl (Nat.le_refl _) hsize hpos
  have hne : ∀ c, InUse bridge c → c ≠ b := by
    rintro c ⟨-, huse⟩ rfl
    rw [hfree] at huse
    cases huse
  refine ⟨hle, rfl, ⟨hmem, hsorted, h.current_aligned, h.start_pos, h.start_le, h.le_end⟩, fun c => ⟨?_, ?_⟩, ?_⟩
  · rintro ⟨hc, huse⟩
    exact ((hiff c).mp hc).imp_left fun hc => ⟨hc.1, huse⟩
  · rintro (hc | rfl)
    · exact ⟨(hiff c).mpr (.inl ⟨hc.1, hne c hc⟩), hc.2⟩
    · exact ⟨(hiff _).mpr (.inr rfl), rfl⟩
  · intro c hc
    show Apart (extentOf b) (extentOf c)
    exact h.apart hb hc.1 (hne c hc).symm

theorem TableSound.bump (h : TableSound bridge) (hsize : size ≠ 0) (hround : size.toNat + 15 < 2 ^ 64)
    (hroom : bridge.heapCurrent.toNat + (alignedSize size).toNat < 2 ^ 64) {abi : Option LinuxABI}
    {heapEnd : UInt64} (hend : bridge.heapCurrent + alignedSize size ≤ heapEnd) :
    Taken bridge { bridge with
        abi := abi
        heapEnd := heapEnd
        heapCurrent := bridge.heapCurrent + alignedSize size
        allocations := bridge.allocations ++ [⟨bridge.heapCurrent, alignedSize size, true⟩] } (alignedSize size)
      ⟨bridge.heapCurrent, alignedSize size, true⟩ := by
  obtain ⟨-, haligned, hpos⟩ := alignedSize_bounds hsize hround
  have hsum : (bridge.heapCurrent + alignedSize size).toNat = bridge.heapCurrent.toNat + (alignedSize size).toNat := by
    rw [UInt64.toNat_add, Nat.mod_eq_of_lt hroom]
  have hcurrent := h.current_aligned
  have hbefore : ∀ b ∈ bridge.allocations, Before b ⟨bridge.heapCurrent, alignedSize size, true⟩ :=
    fun b hb => (h.mem b hb).stop
  refine ⟨UInt64.le_refl _, rfl, ⟨fun c hc => ?_, ?_, ?_, h.start_pos, ?_, ?_⟩, fun c => ⟨?_, ?_⟩, ?_⟩
  · rcases List.mem_append.mp hc with hc | hc
    · obtain ⟨halign, hsz, hp, hstart, hstop⟩ := h.mem c hc
      exact ⟨halign, hsz, hp, hstart, by dsimp only; omega⟩
    · obtain rfl := List.mem_singleton.mp hc
      exact ⟨h.current_aligned, haligned, hpos, h.start_le, hsum.ge⟩
  · exact List.pairwise_append.mpr ⟨h.sorted, List.pairwise_singleton _ _,
      fun b hb c hc => (List.mem_singleton.mp hc) ▸ hbefore b hb⟩
  · show (bridge.heapCurrent + alignedSize size).toNat % 16 = 0
    omega
  · show bridge.heapStart.toNat ≤ (bridge.heapCurrent + alignedSize size).toNat
    have := h.start_le
    omega
  · exact UInt64.le_iff_toNat_le.mp hend
  · rintro ⟨hc, huse⟩
    exact (List.mem_append.mp hc).imp (fun hc => ⟨hc, huse⟩) List.mem_singleton.mp
  · rintro (⟨hc, huse⟩ | rfl)
    · exact ⟨List.mem_append_left _ hc, huse⟩
    · exact ⟨List.mem_append_right _ (List.mem_singleton_self _), rfl⟩
  · exact fun b hb => (hbefore b hb.1).apart.symm

/-- **A request** that fits gets a block apart from all blocks in use, or fails and changes nothing. -/
theorem TableSound.malloc (h : TableSound bridge) (hsize : size ≠ 0) (hfits : Fits bridge size) :
    bridge.malloc size = (0, bridge) ∨
      ∃ taken, (bridge.malloc size).1 = taken.address ∧
        Taken bridge (bridge.malloc size).2 (alignedSize size) taken := by
  obtain ⟨hround, hroom⟩ := hfits
  rcases (malloc_cases hsize : _ ∨ _ ∨ bridge.malloc size = _) with
    ⟨pre, b, post, hsplit, hfree, hb, hmalloc⟩ | ⟨hany, abi, heapEnd, hend, hmalloc⟩ | hfail
  · rw [hmalloc]
    exact .inr ⟨{ b with inUse := true }, rfl, h.take hsplit hfree hb⟩
  · rw [hmalloc]
    have hnofit : ¬ bridge.allocations.any (fits (alignedSize size)) = true := by
      rw [hany]
      exact Bool.false_ne_true
    exact .inr ⟨_, rfl, h.bump hsize hround (hroom.resolve_left hnofit) hend⟩
  · exact .inl hfail

/-! ## Giving a block back -/

/-- Merging two free neighbours. -/
theorem absorb_toNat (hb : BlockSound lo hi b) (hhi : hi < 2 ^ 64) (hc : BlockSound lo hi c)
    (hjoin : adjacentFree b c = true) :
    b.address.toNat + b.size.toNat = c.address.toNat ∧ (absorb b c).size.toNat = b.size.toNat + c.size.toNat := by
  simp only [adjacentFree, Bool.and_eq_true, decide_eq_true_eq] at hjoin
  have hbstop := hb.stop
  have hcstop := hc.stop
  simp only [extentOf] at hbstop hcstop
  have hadjacent : b.address.toNat + b.size.toNat = c.address.toNat := by
    rw [← hjoin.2, UInt64.toNat_add, Nat.mod_eq_of_lt (by omega)]
  refine ⟨hadjacent, ?_⟩
  show (b.size + c.size).toNat = _
  rw [UInt64.toNat_add, Nat.mod_eq_of_lt (by omega)]

/-- **Coalescing** keeps a sorted table sorted and its blocks sound, and leaves the blocks in use alone. -/
theorem coalesce_sound {blocks : List LibCAllocBlock} (hhi : hi < 2 ^ 64) (hmem : ∀ b ∈ blocks, BlockSound lo hi b)
    (hsorted : blocks.Pairwise Before) :
    (∀ b ∈ coalesceFreeBlocks blocks, BlockSound lo hi b) ∧ (coalesceFreeBlocks blocks).Pairwise Before ∧
      (coalesceFreeBlocks blocks).filter LibCAllocBlock.inUse = blocks.filter LibCAllocBlock.inUse := by
  have hbyAddress : blocks.Pairwise fun a b => a.address ≤ b.address :=
    hsorted.imp fun {a b} hbefore => UInt64.le_iff_toNat_le.mpr (Nat.le_trans (Nat.le_add_right _ _) hbefore)
  unfold coalesceFreeBlocks
  rw [hbyAddress.insertionSort_eq]
  cases blocks with
  | nil => exact ⟨hmem, hsorted, rfl⟩
  | cons a l =>
      have hmerge : ∀ b c, BlockSound lo hi b → BlockSound lo hi c → Before b c → adjacentFree b c = true →
          BlockSound lo hi (absorb b c) := by
        intro b c hb hc _ hjoin
        obtain ⟨hadjacent, hsize⟩ := absorb_toNat hb hhi hc hjoin
        have hbsize := hb.size_aligned
        have hcsize := hc.size_aligned
        have hcstop := hc.stop
        simp only [extentOf] at hcstop
        refine ⟨hb.aligned, by omega, ?_, hb.start, ?_⟩
        · have := hb.pos
          omega
        · show b.address.toNat + (absorb b c).size.toNat ≤ hi
          omega
      have hright : ∀ b c d, BlockSound lo hi b → BlockSound lo hi c → adjacentFree b c = true → Before c d →
          Before (absorb b c) d := by
        intro b c d hb hc hjoin hbefore
        obtain ⟨hadjacent, hsize⟩ := absorb_toNat hb hhi hc hjoin
        simp only [Before, extentOf] at hbefore ⊢
        show b.address.toNat + (absorb b c).size.toNat ≤ d.address.toNat
        omega
      have hinUse : ∀ b c, adjacentFree b c = true →
          b.inUse = false ∧ c.inUse = false ∧ (absorb b c).inUse = false := by
        intro b c hjoin
        simp only [adjacentFree, Bool.and_eq_true, Bool.not_eq_true'] at hjoin
        exact ⟨hjoin.1.1, hjoin.1.2, hjoin.1.1⟩
      obtain ⟨hP, hr, -⟩ := pairwise_mergeFrom hmerge hright hmem hsorted (fun _ _ _ h _ => h)
      exact ⟨hP, hr, filter_mergeFrom hinUse a l⟩

/-- What giving back the block at `ptr` does to the table. -/
structure Released (bridge bridge' : LibCBridge) (ptr : UInt64) : Prop where
  start : bridge.heapStart = bridge'.heapStart
  sound : TableSound bridge'
  inUse : ∀ b, InUse bridge' b ↔ InUse bridge b ∧ b.address ≠ ptr

theorem owns_iff {ptr : UInt64} : owns ptr b = true ↔ b.address = ptr ∧ b.inUse = true := by
  rw [owns, Bool.and_eq_true, decide_eq_true_eq]

/-- **`Free`.** -/
theorem TableSound.free (h : TableSound bridge) {ptr : UInt64} (hptr : ptr ≠ 0) :
    Released bridge (bridge.free ptr) ptr := by
  unfold LibCBridge.free
  rw [if_neg hptr]
  cases hfind : bridge.allocations.find? (owns ptr) with
  | none =>
      refine ⟨rfl, h, fun b => ⟨fun hb => ⟨hb, fun haddress => ?_⟩, And.left⟩⟩
      exact List.find?_eq_none.mp hfind b hb.1 (owns_iff.mpr ⟨haddress, hb.2⟩)
  | some b =>
      obtain ⟨pre, post, hsplit, hupdate⟩ :=
        updateFirst_split (f := fun block : LibCAllocBlock => { block with inUse := false }) hfind
      obtain ⟨haddress, huse⟩ := owns_iff.mp (List.find?_some hfind)
      have hb : b ∈ bridge.allocations := List.mem_of_find?_eq_some hfind
      obtain ⟨-, hsize, hpos, -, -⟩ := h.mem b hb
      obtain ⟨hmem, hsorted, hiff⟩ := h.replace hsplit { b with inUse := false } rfl (Nat.le_refl _) hsize hpos
      obtain ⟨hsound, hbefore, hfilter⟩ := coalesce_sound bridge.heapCurrent.toNat_lt hmem hsorted
      dsimp only
      rw [hupdate]
      refine ⟨rfl, ⟨hsound, hbefore, h.current_aligned, h.start_pos, h.start_le, h.le_end⟩, fun c => ?_⟩
      -- the blocks in use are those of the table with `b` marked free
      have hc : InUse { bridge with
            allocations := coalesceFreeBlocks (pre ++ { b with inUse := false } :: post) } c ↔
          c ∈ pre ++ { b with inUse := false } :: post ∧ c.inUse = true := by
        rw [← List.mem_filter, ← hfilter]
        exact List.mem_filter.symm
      rw [hc, hiff]
      constructor
      · rintro ⟨⟨hc, hne⟩ | rfl, hcuse⟩
        · exact ⟨⟨hc, hcuse⟩, fun hptr => hne (h.eq_of_address hc hb (hptr.trans haddress.symm))⟩
        · cases hcuse
      · rintro ⟨⟨hc, hcuse⟩, hne⟩
        refine ⟨.inl ⟨hc, ?_⟩, hcuse⟩
        rintro rfl
        exact hne haddress

/-- **Shrinking** a block in place. -/
theorem TableSound.shrink (h : TableSound bridge) {ptr : UInt64}
    (hfind : bridge.allocations.find? (owns ptr) = some b) (hsize : size ≠ 0) (hround : size.toNat + 15 < 2 ^ 64)
    (hle : alignedSize size ≤ b.size) :
    TableSound { bridge with
        allocations := updateFirst (owns ptr) (fun b => { b with size := alignedSize size }) bridge.allocations } ∧
      ∀ c, InUse { bridge with
          allocations := updateFirst (owns ptr) (fun b => { b with size := alignedSize size }) bridge.allocations } c ↔
        (InUse bridge c ∧ c.address ≠ ptr) ∨ c = { b with size := alignedSize size } := by
  obtain ⟨pre, post, hsplit, hupdate⟩ :=
    updateFirst_split (f := fun b : LibCAllocBlock => { b with size := alignedSize size }) hfind
  obtain ⟨haddress, huse⟩ := owns_iff.mp (List.find?_some hfind)
  have hb : b ∈ bridge.allocations := List.mem_of_find?_eq_some hfind
  obtain ⟨-, haligned, hpos⟩ := alignedSize_bounds hsize hround
  obtain ⟨hmem, hsorted, hiff⟩ := h.replace hsplit { b with size := alignedSize size } rfl
    (UInt64.le_iff_toNat_le.mp hle) haligned hpos
  rw [hupdate]
  refine ⟨⟨hmem, hsorted, h.current_aligned, h.start_pos, h.start_le, h.le_end⟩, fun c => ?_⟩
  constructor
  · rintro ⟨hc, hcuse⟩
    refine ((hiff c).mp hc).imp_left fun hc => ⟨⟨hc.1, hcuse⟩, fun hptr => ?_⟩
    exact hc.2 (h.eq_of_address hc.1 hb (hptr.trans haddress.symm))
  · rintro (⟨⟨hc, hcuse⟩, hne⟩ | rfl)
    · refine ⟨(hiff c).mpr (.inl ⟨hc, ?_⟩), hcuse⟩
      rintro rfl
      exact hne haddress
    · exact ⟨(hiff _).mpr (.inr rfl), huse⟩

end Table

end LibCBridge

end GuideXOS.Abi
