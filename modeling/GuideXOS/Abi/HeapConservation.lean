import GuideXOS.Abi.HeapSafety

/-!
# `HeapConservation` — no byte of the heap is lost

The blocks of the table tile the heap, from its start to the heap pointer. As no two free blocks lie side by side, a
heap without a block in use is one free block (`wholeHeap`), and the next request is met from it.

A request is harmless as long as a free block is found for it, or one that is not empty fits below the last address
(`Placeable`). `Realloc` to fewer bytes is not: it makes the block shorter and forgets the rest of it, which no block
covers from then on (`heap_conserved_iff`).
-/

namespace GuideXOS.Abi
open Core Lib.Words Lib.Merging Lib.Extents Lib.Runs LibCBridge

namespace LibCBridge

variable (bridge : LibCBridge)

/-- The tracked blocks by address. -/
def blocksByAddress : List LibCAllocBlock :=
  bridge.allocations.insertionSort fun a b => a.address ≤ b.address

/-- The blocks tile the heap. -/
def Tiled : Prop :=
  Tiles bridge.heapStart.toNat (bridge.blocksByAddress.map extentOf) bridge.heapCurrent.toNat

/-- No block is in use. -/
def AllFree : Prop := ∀ b ∈ bridge.allocations, b.inUse = false

/-- The heap as one free block. -/
def wholeHeap : List LibCAllocBlock :=
  if bridge.heapStart = bridge.heapCurrent then []
  else [⟨bridge.heapStart, bridge.heapCurrent - bridge.heapStart, false⟩]

/-- A request is met, and the heap pointer, its limit and the break stay where they are. -/
def MetInside (size : UInt64) : Prop :=
  (bridge.malloc size).1 ≠ 0 ∧ (bridge.malloc size).2.heapCurrent = bridge.heapCurrent ∧
    (bridge.malloc size).2.heapEnd = bridge.heapEnd ∧ (bridge.malloc size).2.abi = bridge.abi

/-- **Conservation.** -/
structure Conserved (bridge : LibCBridge) : Prop where
  tiled : Tiled bridge
  whole : AllFree bridge → bridge.allocations = bridge.wholeHeap
  reused : AllFree bridge → ∀ size, size ≠ 0 → size ≤ bridge.heapCurrent - bridge.heapStart → MetInside bridge size

/-- What the table has besides: free blocks are apart from each other. -/
structure TableTiled (bridge : LibCBridge) : Prop where
  sound : TableSound bridge
  start_aligned : bridge.heapStart.toNat % 16 = 0
  tiles : Tiles bridge.heapStart.toNat (bridge.allocations.map extentOf) bridge.heapCurrent.toNat
  separated : bridge.allocations.IsChain fun a b => adjacentFree a b = false

section Table
variable {bridge : LibCBridge} {b : LibCAllocBlock} {pre post : List LibCAllocBlock}

theorem TableSound.blocksByAddress_eq (h : TableSound bridge) : bridge.blocksByAddress = bridge.allocations := by
  refine List.Pairwise.insertionSort_eq (h.sorted.imp fun {a b} hbefore => ?_)
  exact UInt64.le_iff_toNat_le.mpr (Nat.le_trans (Nat.le_add_right _ _) hbefore)

theorem TableTiled.tiled (h : TableTiled bridge) : Tiled bridge := by
  rw [Tiled, h.sound.blocksByAddress_eq]
  exact h.tiles

/-! ## A heap without a block in use -/

/-- **One free block**, or none where there is no heap yet. -/
theorem TableTiled.whole (h : TableTiled bridge) (hfree : AllFree bridge) :
    bridge.allocations = bridge.wholeHeap := by
  obtain ⟨hsound, -, htiles, hseparated⟩ := h
  cases hblocks : bridge.allocations with
  | nil =>
      rw [hblocks] at htiles
      rw [wholeHeap, if_pos (UInt64.toNat_inj.mp htiles)]
  | cons a blocks =>
      have ha : a ∈ bridge.allocations := by
        rw [hblocks]
        exact List.mem_cons_self
      rw [hblocks] at htiles hseparated
      obtain ⟨hstart, hpos, htiles⟩ := htiles
      cases blocks with
      | nil =>
          have hstop : a.address.toNat + a.size.toNat = bridge.heapCurrent.toNat := htiles
          have hne : bridge.heapStart ≠ bridge.heapCurrent := by
            intro heq
            rw [← heq, ← hstart] at hstop
            simp only [extentOf] at hstop hpos
            omega
          have haddress : a.address = bridge.heapStart := UInt64.toNat_inj.mp hstart
          have hsize : a.size = bridge.heapCurrent - bridge.heapStart := by
            have hle : bridge.heapStart ≤ bridge.heapCurrent := UInt64.le_iff_toNat_le.mpr hsound.start_le
            apply UInt64.toNat_inj.mp
            rw [UInt64.toNat_sub_of_le _ _ hle, ← haddress]
            omega
          rw [wholeHeap, if_neg hne, ← haddress, haddress, ← hsize, ← haddress, ← hfree a ha]
      | cons c blocks =>
          have hc : c ∈ bridge.allocations := by
            rw [hblocks]
            exact List.mem_cons_of_mem _ List.mem_cons_self
          have hjoin : a.address + a.size = c.address := by
            have hnext : c.address.toNat = a.address.toNat + a.size.toNat := htiles.1
            apply UInt64.toNat_inj.mp
            have := c.address.toNat_lt
            rw [UInt64.toNat_add, Nat.mod_eq_of_lt (by omega), hnext]
          have hapart := (List.isChain_cons_cons.mp hseparated).1
          simp [adjacentFree, hfree a ha, hfree c hc, hjoin] at hapart

/-- **Requests are met** from a heap without a block in use. -/
theorem TableTiled.reused (h : TableTiled bridge) (hfree : AllFree bridge) {size : UInt64} (hsize : size ≠ 0)
    (hle : size ≤ bridge.heapCurrent - bridge.heapStart) : MetInside bridge size := by
  have hstartle : bridge.heapStart ≤ bridge.heapCurrent := UInt64.le_iff_toNat_le.mpr h.sound.start_le
  have hlength : size.toNat ≤ bridge.heapCurrent.toNat - bridge.heapStart.toNat := by
    rw [← UInt64.toNat_sub_of_le _ _ hstartle]
    exact UInt64.le_iff_toNat_le.mp hle
  have hpos : 0 < size.toNat := Nat.pos_of_ne_zero fun hzero => hsize (UInt64.toNat_inj.mp hzero)
  have hne : bridge.heapStart ≠ bridge.heapCurrent := by
    intro heq
    rw [heq] at hlength
    omega
  have hcurrent := h.sound.current_aligned
  have hstart := h.start_aligned
  have hround : size.toNat + 15 < 2 ^ 64 := by
    have := bridge.heapCurrent.toNat_lt
    have := h.sound.start_pos
    omega
  have hfits : fits (alignedSize size) ⟨bridge.heapStart, bridge.heapCurrent - bridge.heapStart, false⟩ = true := by
    have : alignedSize size ≤ bridge.heapCurrent - bridge.heapStart := by
      rw [UInt64.le_iff_toNat_le, UInt64.toNat_sub_of_le _ _ hstartle, alignedSize_toNat, Nat.mod_eq_of_lt hround]
      omega
    simp [fits, this]
  have hblocks := h.whole hfree
  rw [wholeHeap, if_neg hne] at hblocks
  have hfind : bridge.allocations.find? (fits (alignedSize size)) =
      some ⟨bridge.heapStart, bridge.heapCurrent - bridge.heapStart, false⟩ := by
    rw [hblocks, List.find?_cons, hfits]
  unfold MetInside malloc
  rw [if_neg hsize]
  dsimp only
  rw [hfind]
  refine ⟨fun hzero => ?_, rfl, rfl, rfl⟩
  have hstartpos := h.sound.start_pos
  rw [show bridge.heapStart = 0 from hzero] at hstartpos
  exact absurd hstartpos (by simp)

theorem TableTiled.conserved (h : TableTiled bridge) : Conserved bridge :=
  ⟨h.tiled, h.whole, fun hfree _ hsize hle => h.reused hfree hsize hle⟩

end Table

/-! ## Where a request is placed -/

/-- A free block is found, or one that is not empty fits below the last address. -/
def Placeable (size : UInt64) : Prop :=
  bridge.allocations.any (fits (alignedSize size)) = true ∨
    (alignedSize size ≠ 0 ∧ bridge.heapCurrent.toNat + (alignedSize size).toNat < 2 ^ 64)

instance (bridge : LibCBridge) (size : UInt64) : Decidable (Placeable bridge size) :=
  inferInstanceAs (Decidable (_ ∨ (_ ∧ _)))

section Table
variable {bridge : LibCBridge} {b : LibCAllocBlock} {pre post : List LibCAllocBlock} {ptr size : UInt64}

/-- A size that is rounded to zero was too large to be rounded. -/
theorem round_lt_of_alignedSize_ne (hne : alignedSize size ≠ 0) : size.toNat + 15 < 2 ^ 64 := by
  by_contra hlarge
  apply hne
  have := size.toNat_lt
  apply UInt64.toNat_inj.mp
  rw [alignedSize_toNat, UInt64.toNat_zero]
  omega

/-- The table with one block in use that was free. -/
theorem TableTiled.take (h : TableTiled bridge) (hsplit : bridge.allocations = pre ++ b :: post)
    (hfree : b.inUse = false) : TableTiled { bridge with allocations := pre ++ { b with inUse := true } :: post } := by
  have hseparated := h.separated
  have htiles := h.tiles
  rw [hsplit] at hseparated htiles
  refine ⟨(h.sound.take hsplit hfree (UInt64.le_refl _)).sound, h.start_aligned, ?_, ?_⟩
  · rw [List.map_append, List.map_cons] at htiles ⊢
    exact htiles
  · refine isChain_replace (fun x _ => ?_) (fun x _ => ?_) hseparated <;> simp [adjacentFree]

/-- The table with a block appended. -/
theorem TableTiled.bump (h : TableTiled bridge) (hsize : size ≠ 0) (hne : alignedSize size ≠ 0)
    (hroom : bridge.heapCurrent.toNat + (alignedSize size).toNat < 2 ^ 64) {abi : Option LinuxABI} {heapEnd : UInt64}
    (hend : bridge.heapCurrent + alignedSize size ≤ heapEnd) :
    TableTiled { bridge with
      abi := abi
      heapEnd := heapEnd
      heapCurrent := bridge.heapCurrent + alignedSize size
      allocations := bridge.allocations ++ [⟨bridge.heapCurrent, alignedSize size, true⟩] } := by
  have hround := round_lt_of_alignedSize_ne hne
  obtain ⟨-, -, hpos⟩ := alignedSize_bounds hsize hround
  have hsum : (bridge.heapCurrent + alignedSize size).toNat = bridge.heapCurrent.toNat + (alignedSize size).toNat := by
    rw [UInt64.toNat_add, Nat.mod_eq_of_lt hroom]
  refine ⟨(h.sound.bump hsize hround hroom hend).sound, h.start_aligned, ?_, ?_⟩
  · rw [List.map_append]
    refine tiles_append.mpr ⟨_, h.tiles, rfl, ?_, hsum.symm⟩
    exact Nat.lt_add_of_pos_right hpos
  · refine List.isChain_append.mpr ⟨h.separated, List.isChain_singleton _, fun x _ y hy => ?_⟩
    obtain rfl : _ = y := by simpa using hy
    simp [adjacentFree]

theorem TableTiled.malloc (h : TableTiled bridge) (hplace : size = 0 ∨ Placeable bridge size) :
    TableTiled (bridge.malloc size).2 := by
  by_cases hsize : size = 0
  · rw [LibCBridge.malloc, if_pos hsize]
    exact h
  · rcases (malloc_cases hsize : _ ∨ _ ∨ bridge.malloc size = _) with
      ⟨pre, b, post, hsplit, hfree, -, hmalloc⟩ | ⟨hany, abi, heapEnd, hend, hmalloc⟩ | hfail
    · rw [hmalloc]
      exact h.take hsplit hfree
    · rw [hmalloc]
      rcases hplace.resolve_left hsize with hfits | ⟨hne, hroom⟩
      · rw [hany] at hfits
        cases hfits
      · exact h.bump hsize hne hroom hend
    · rw [hfail]
      exact h

/-- **Coalescing** merges tiles into tiles, and leaves no two free neighbours. -/
theorem coalesce_tiled {blocks : List LibCAllocBlock} {lo hi : Nat} (hhi : hi < 2 ^ 64)
    (hmem : ∀ b ∈ blocks, BlockSound lo hi b) (hsorted : blocks.Pairwise Before)
    (htiles : Tiles lo (blocks.map extentOf) hi) :
    Tiles lo ((coalesceFreeBlocks blocks).map extentOf) hi ∧
      (coalesceFreeBlocks blocks).IsChain fun a b => adjacentFree a b = false := by
  have hbyAddress : blocks.Pairwise fun a b => a.address ≤ b.address :=
    hsorted.imp fun {a b} hbefore => UInt64.le_iff_toNat_le.mpr (Nat.le_trans (Nat.le_add_right _ _) hbefore)
  unfold coalesceFreeBlocks
  rw [hbyAddress.insertionSort_eq]
  cases blocks with
  | nil => exact ⟨htiles, List.isChain_nil⟩
  | cons a l =>
      have hkept : ∀ a b c, adjacentFree b c = true → adjacentFree a (absorb b c) = adjacentFree a b :=
        fun _ _ _ _ => rfl
      refine ⟨?_, isChain_mergeFrom hkept a l⟩
      clear hsorted hbyAddress
      dsimp only
      induction l generalizing a lo with
      | nil => exact htiles
      | cons b l ih =>
          obtain ⟨ha, hb, hl⟩ : BlockSound lo hi a ∧ BlockSound lo hi b ∧ ∀ c ∈ l, BlockSound lo hi c := by
            obtain ⟨ha, hrest⟩ := List.forall_mem_cons.mp hmem
            exact ⟨ha, List.forall_mem_cons.mp hrest⟩
          rw [mergeFrom]
          split
          · rename_i hjoin
            obtain ⟨hadjacent, hsize⟩ := absorb_toNat ha hhi hb hjoin
            obtain ⟨hstart, hpos, hnext, hpos', htiles⟩ := htiles
            have hextent : extentOf (absorb a b) = ⟨(extentOf a).start, (extentOf b).stop⟩ := by
              have haddress : (absorb a b).address = a.address := rfl
              simp only [extentOf, haddress, hsize, Extent.mk.injEq, true_and]
              omega
            have hlt : (extentOf (absorb a b)).start < (extentOf (absorb a b)).stop := by
              rw [hextent]
              exact hpos.trans (lt_of_eq_of_lt hnext.symm hpos')
            have hmerged : Tiles lo ((absorb a b :: l).map extentOf) hi :=
              ⟨by rw [hextent]; exact hstart, hlt, by rw [hextent]; exact htiles⟩
            have hbsize := hb.size_aligned
            have hasize := ha.size_aligned
            refine ih (absorb a b) (List.forall_mem_cons.mpr ⟨⟨ha.aligned, by omega, ?_, ha.start, ?_⟩, hl⟩) hmerged
            · have := ha.pos
              omega
            · rw [hextent]
              exact hb.stop
          · obtain ⟨hstart, hpos, htiles⟩ := htiles
            refine ⟨hstart, hpos, ih b ?_ htiles⟩
            -- what comes after the first block starts behind it
            have hrest : ∀ c ∈ b :: l, BlockSound (extentOf a).stop hi c := by
              intro c hc
              obtain ⟨haligned, hsz, hp, -, hstop⟩ := hmem c (List.mem_cons_of_mem _ hc)
              exact ⟨haligned, hsz, hp, (htiles.mem (List.mem_map_of_mem hc)).1, hstop⟩
            exact hrest

theorem TableTiled.free (h : TableTiled bridge) : TableTiled (bridge.free ptr) := by
  by_cases hptr : ptr = 0
  · rw [LibCBridge.free, if_pos hptr]
    exact h
  have hsound := (h.sound.free hptr).sound
  unfold LibCBridge.free at hsound ⊢
  rw [if_neg hptr] at hsound ⊢
  cases hfind : bridge.allocations.find? (owns ptr) with
  | none => exact h
  | some b =>
      rw [hfind] at hsound
      obtain ⟨pre, post, hsplit, hupdate⟩ :=
        updateFirst_split (f := fun block : LibCAllocBlock => { block with inUse := false }) hfind
      have hb : b ∈ bridge.allocations := List.mem_of_find?_eq_some hfind
      obtain ⟨-, hsize, hpos, -, -⟩ := h.sound.mem b hb
      obtain ⟨hmem, hsorted, -⟩ := h.sound.replace hsplit { b with inUse := false } rfl (Nat.le_refl _) hsize hpos
      have htiles := h.tiles
      rw [hsplit, List.map_append, List.map_cons] at htiles
      obtain ⟨htiles', hseparated⟩ := coalesce_tiled bridge.heapCurrent.toNat_lt hmem hsorted (by
        rw [List.map_append, List.map_cons]
        exact htiles)
      dsimp only at hsound ⊢
      rw [hupdate] at hsound ⊢
      exact ⟨hsound, h.start_aligned, htiles', hseparated⟩

end Table

/-! ## What breaks the tiling -/

section Broken
variable {bridge : LibCBridge} {b c : LibCAllocBlock} {ptr size : UInt64}

theorem mem_coalesce {blocks : List LibCAllocBlock} (hc : c ∈ blocks) (huse : c.inUse = true) :
    c ∈ coalesceFreeBlocks blocks := by
  have hinUse : ∀ a b, adjacentFree a b = true → a.inUse = false ∧ b.inUse = false ∧ (absorb a b).inUse = false := by
    intro a b hjoin
    simp only [adjacentFree, Bool.and_eq_true, Bool.not_eq_true'] at hjoin
    exact ⟨hjoin.1.1, hjoin.1.2, hjoin.1.1⟩
  have hsorted : c ∈ blocks.insertionSort fun a b => a.address ≤ b.address := (List.mem_insertionSort _).mpr hc
  unfold coalesceFreeBlocks
  cases hblocks : blocks.insertionSort fun a b => a.address ≤ b.address with
  | nil =>
      rw [hblocks] at hsorted
      cases hsorted
  | cons a l =>
      rw [hblocks] at hsorted
      have hkept : c ∈ (mergeFrom adjacentFree absorb a l).filter LibCAllocBlock.inUse := by
        rw [filter_mergeFrom hinUse a l]
        exact List.mem_filter.mpr ⟨hsorted, huse⟩
      exact (List.mem_filter.mp hkept).1

/-- `Free` leaves the blocks in use at other addresses. -/
theorem mem_free (hc : c ∈ bridge.allocations) (huse : c.inUse = true) (hne : c.address ≠ ptr) :
    c ∈ (bridge.free ptr).allocations := by
  unfold free
  split
  · exact hc
  · split
    · exact hc
    · exact mem_coalesce (mem_updateFirst hc (by simp [owns, hne])) huse

theorem heapCurrent_free : (bridge.free ptr).heapCurrent = bridge.heapCurrent := by
  unfold free
  split
  · rfl
  · split <;> rfl

/-- A block that is empty or reaches past the last address. -/
theorem not_tiled (hmem : b ∈ bridge.allocations)
    (hbad : b.size = 0 ∨ bridge.heapCurrent.toNat < b.address.toNat + b.size.toNat) : ¬ Tiled bridge := by
  intro htiled
  obtain ⟨-, hpos, hstop⟩ := htiled.mem (List.mem_map_of_mem ((List.mem_insertionSort _).mpr hmem))
  simp only [extentOf] at hpos hstop
  rcases hbad with hzero | hlarge
  · rw [hzero] at hpos
    exact absurd hpos (by simp)
  · omega

/-- **A request that cannot be placed** is met with such a block. -/
theorem malloc_misplaced (h : TableSound bridge) (hsize : size ≠ 0) (hplace : ¬ Placeable bridge size) :
    (bridge.malloc size).1 = bridge.heapCurrent ∧
      (bridge.malloc size).2.heapCurrent = bridge.heapCurrent + alignedSize size ∧
      ⟨bridge.heapCurrent, alignedSize size, true⟩ ∈ (bridge.malloc size).2.allocations ∧
      (alignedSize size = 0 ∨
        (bridge.heapCurrent + alignedSize size).toNat < bridge.heapCurrent.toNat + (alignedSize size).toNat) := by
  obtain ⟨hany, hbad⟩ := not_or.mp hplace
  have hfind : bridge.allocations.find? (fits (alignedSize size)) = none := by
    simpa [List.find?_eq_none] using hany
  have hsum : (bridge.heapCurrent + alignedSize size).toNat ≤ bridge.heapCurrent.toNat ∧ (alignedSize size = 0 ∨
      (bridge.heapCurrent + alignedSize size).toNat < bridge.heapCurrent.toNat + (alignedSize size).toNat) := by
    have hcurrent := bridge.heapCurrent.toNat_lt
    have haligned := (alignedSize size).toNat_lt
    by_cases hzero : alignedSize size = 0
    · exact ⟨by simp [hzero], .inl hzero⟩
    · have hwrap : 2 ^ 64 ≤ bridge.heapCurrent.toNat + (alignedSize size).toNat :=
        Nat.le_of_not_lt fun hroom => hbad ⟨hzero, hroom⟩
      rw [UInt64.toNat_add]
      exact ⟨by omega, .inr (by omega)⟩
  have hroom : ¬ bridge.heapEnd < bridge.heapCurrent + alignedSize size :=
    not_lt.mpr (UInt64.le_iff_toNat_le.mpr (hsum.1.trans h.le_end))
  unfold malloc
  rw [if_neg hsize]
  dsimp only
  rw [hfind, if_neg hroom]
  exact ⟨rfl, rfl, List.mem_append_right _ List.mem_cons_self, hsum.2⟩

theorem placeable_of_tiled (h : TableSound bridge) (htiled : Tiled (bridge.malloc size).2) :
    size = 0 ∨ Placeable bridge size := by
  refine or_iff_not_imp_left.mpr fun hsize => ?_
  by_contra hplace
  obtain ⟨-, hcurrent, hmem, hbad⟩ := malloc_misplaced h hsize hplace
  exact not_tiled hmem (hcurrent ▸ hbad) htiled

/-- A shorter block leaves a gap. -/
theorem size_of_tiled (h : TableTiled bridge) (hfind : bridge.allocations.find? (owns ptr) = some b)
    (htiled : Tiled { bridge with allocations := updateFirst (owns ptr) (fun b => { b with size := size }) bridge.allocations }) :
    size = b.size := by
  obtain ⟨pre, post, hsplit, hupdate⟩ := updateFirst_split (f := fun b : LibCAllocBlock => { b with size := size }) hfind
  have hbyAddress : bridge.allocations.Pairwise fun a b => a.address ≤ b.address :=
    h.sound.sorted.imp fun {a b} hbefore => UInt64.le_iff_toNat_le.mpr (Nat.le_trans (Nat.le_add_right _ _) hbefore)
  rw [hsplit] at hbyAddress
  have hsorted : (pre ++ { b with size := size } :: post).Pairwise fun a b => a.address ≤ b.address := by
    refine pairwise_replace ?_ ?_ hbyAddress
    · exact fun _ hx => hx
    · exact fun _ hx => hx
  have htiles := h.tiles
  unfold Tiled blocksByAddress at htiled
  dsimp only at htiled
  rw [hupdate, hsorted.insertionSort_eq, List.map_append, List.map_cons] at htiled
  rw [hsplit, List.map_append, List.map_cons] at htiles
  have hstop := congrArg Extent.stop (htiles.replace htiled)
  exact UInt64.toNat_inj.mp (Nat.add_left_cancel hstop)

end Broken

end LibCBridge

/-! ## Histories -/

open HeapCall

section Calls
variable {M : Type _} [IMemory M]

/-- **What a call may be asked** so that no byte is lost: a request is placeable, and `Realloc` in place keeps the
    rounded size. -/
def KeepsBytes (g : Guest M) : HeapCall → Prop
  | .malloc size => size = 0 ∨ Placeable g.bridge size
  | .calloc nmemb size => nmemb * size = 0 ∨ Placeable g.bridge (nmemb * size)
  | .realloc ptr size => size = 0 ∨
      if ptr = 0 then Placeable g.bridge size
      else ∀ b ∈ g.bridge.allocations.find? (owns ptr),
        if alignedSize size ≤ b.size then alignedSize size = b.size else Placeable g.bridge size
  | .free _ | .store _ _ => True

variable {g : Guest M}

theorem bridge_calloc (nmemb size : UInt64) :
    (step g (.calloc nmemb size)).bridge = (g.bridge.malloc (nmemb * size)).2 := by
  show (g.bridge.calloc g.memory nmemb size).bridge = _
  unfold LibCBridge.calloc
  dsimp only
  by_cases hzero : nmemb * size = 0
  · rw [if_pos hzero, LibCBridge.malloc, if_pos hzero]
  · rw [if_neg hzero]
    split <;> rfl

theorem bridge_store (address : UInt64) (byte : UInt8) : (step g (.store address byte)).bridge = g.bridge := by
  show (perform g (.store address byte)).bridge = _
  rw [perform]
  split <;> rfl

/-- **`Realloc`** of a block that is too short: the request may fail, the copy may fail, or the old block is given
    back. -/
theorem bridge_realloc_grow {ptr size : UInt64} {b : LibCAllocBlock} (hptr : ptr ≠ 0) (hsize : size ≠ 0)
    (hfind : g.bridge.allocations.find? (owns ptr) = some b) (hle : ¬ alignedSize size ≤ b.size) :
    (step g (.realloc ptr size)).bridge = (g.bridge.malloc size).2 ∨
      (step g (.realloc ptr size)).bridge = (g.bridge.malloc size).2.free ptr := by
  show (g.bridge.realloc g.memory ptr size).bridge = _ ∨ (g.bridge.realloc g.memory ptr size).bridge = _
  unfold LibCBridge.realloc
  rw [if_neg hptr, if_neg hsize, hfind]
  dsimp only
  rw [if_neg hle]
  split
  · exact .inl rfl
  · split
    · exact .inl rfl
    · exact .inr rfl

/-- `Realloc` in place. -/
theorem bridge_realloc_inPlace {ptr size : UInt64} {b : LibCAllocBlock} (hptr : ptr ≠ 0) (hsize : size ≠ 0)
    (hfind : g.bridge.allocations.find? (owns ptr) = some b) (hle : alignedSize size ≤ b.size) :
    (step g (.realloc ptr size)).bridge = { g.bridge with
      allocations := updateFirst (owns ptr) (fun b => { b with size := alignedSize size }) g.bridge.allocations } := by
  show (g.bridge.realloc g.memory ptr size).bridge = _
  unfold LibCBridge.realloc
  rw [if_neg hptr, if_neg hsize, hfind]
  dsimp only
  rw [if_pos hle]

/-- The other cases of `Realloc`. -/
theorem bridge_realloc {ptr size : UInt64} (hother : ptr = 0 ∨ size = 0 ∨ g.bridge.allocations.find? (owns ptr) = none) :
    (step g (.realloc ptr size)).bridge =
      if ptr = 0 then (g.bridge.malloc size).2 else if size = 0 then g.bridge.free ptr else g.bridge := by
  show (g.bridge.realloc g.memory ptr size).bridge = _
  unfold LibCBridge.realloc
  by_cases hptr : ptr = 0
  · rw [if_pos hptr, if_pos hptr]
  · rw [if_neg hptr, if_neg hptr]
    by_cases hsize : size = 0
    · rw [if_pos hsize, if_pos hsize]
    · rw [if_neg hsize, if_neg hsize, (hother.resolve_left hptr).resolve_left hsize]

/-- **One call** keeps the tiling. -/
theorem tableTiled_step (h : TableTiled g.bridge) {call : HeapCall} (hkeeps : KeepsBytes g call) :
    TableTiled (step g call).bridge := by
  cases call with
  | malloc size => exact h.malloc hkeeps
  | calloc nmemb size =>
      rw [bridge_calloc]
      exact h.malloc hkeeps
  | free ptr => exact h.free
  | store address byte =>
      rw [bridge_store]
      exact h
  | realloc ptr size =>
      by_cases hother : ptr = 0 ∨ size = 0 ∨ g.bridge.allocations.find? (owns ptr) = none
      · rw [bridge_realloc hother]
        split
        · rename_i hptr
          exact h.malloc (hkeeps.imp_right fun hplace => by rwa [if_pos hptr] at hplace)
        · split
          · exact h.free
          · exact h
      · obtain ⟨hptr, hsize, hfound⟩ : ptr ≠ 0 ∧ size ≠ 0 ∧ ¬ g.bridge.allocations.find? (owns ptr) = none := by
          simpa only [not_or] using hother
        obtain ⟨b, hfind⟩ := Option.ne_none_iff_exists'.mp hfound
        have hblock := hkeeps.resolve_left hsize
        rw [if_neg hptr] at hblock
        have hblock := hblock b hfind
        by_cases hle : alignedSize size ≤ b.size
        · rw [if_pos hle] at hblock
          obtain ⟨pre, post, hsplit, hupdate⟩ :=
            updateFirst_split (f := fun b : LibCAllocBlock => { b with size := alignedSize size }) hfind
          rw [bridge_realloc_inPlace hptr hsize hfind hle, hupdate, hblock, ← hsplit]
          exact h
        · rw [if_neg hle] at hblock
          have hmalloc := h.malloc (.inr hblock)
          rcases bridge_realloc_grow hptr hsize hfind hle with heq | heq
          · rw [heq]
            exact hmalloc
          · rw [heq]
            exact hmalloc.free

/-- **One call** loses bytes otherwise. -/
theorem keepsBytes_of_tiled (h : TableTiled g.bridge) {call : HeapCall} (htiled : Tiled (step g call).bridge) :
    KeepsBytes g call := by
  cases call with
  | malloc size => exact placeable_of_tiled h.sound htiled
  | calloc nmemb size =>
      rw [bridge_calloc] at htiled
      exact placeable_of_tiled h.sound htiled
  | free ptr => trivial
  | store address byte => trivial
  | realloc ptr size =>
      refine or_iff_not_imp_left.mpr fun hsize => ?_
      by_cases hptr : ptr = 0
      · rw [bridge_realloc (.inl hptr), if_pos hptr] at htiled
        rw [if_pos hptr]
        exact (placeable_of_tiled h.sound htiled).resolve_left hsize
      · rw [if_neg hptr]
        intro b hfind
        by_cases hle : alignedSize size ≤ b.size
        · rw [bridge_realloc_inPlace hptr hsize hfind hle] at htiled
          rw [if_pos hle]
          exact size_of_tiled h hfind htiled
        · rw [if_neg hle]
          by_contra hplace
          obtain ⟨-, hcurrent, hmem, hbad⟩ := malloc_misplaced h.sound hsize hplace
          rcases bridge_realloc_grow hptr hsize hfind hle with heq | heq
          · rw [heq] at htiled
            exact not_tiled hmem (hcurrent ▸ hbad) htiled
          · rw [heq] at htiled
            -- the misplaced block is not the one given back
            have hbelow : ptr ≠ g.bridge.heapCurrent := by
              rintro rfl
              obtain ⟨haddress, -⟩ := owns_iff.mp (List.find?_some hfind)
              obtain ⟨-, -, hpos, -, hstop⟩ := h.sound.mem b (List.mem_of_find?_eq_some hfind)
              simp only [extentOf, haddress] at hstop
              omega
            refine not_tiled (mem_free hmem rfl hbelow.symm) ?_ htiled
            rw [heapCurrent_free, hcurrent]
            exact hbad

theorem tableTiled_initialized (abi : Option LinuxABI) : TableTiled (initialized abi) where
  sound := tableSound_initialized abi
  start_aligned := show LIBC_HEAP_START.toNat % 16 = 0 by decide
  tiles := rfl
  separated := List.isChain_nil

/-- **Heap blocks are conserved** in every state of a history if and only if no call of it shortens a block in place,
    asks for a block that is rounded to nothing, or takes the heap pointer past the last address. -/
theorem heap_conserved_iff (abi : Option LinuxABI) (memory : M) (calls : List HeapCall) :
    EveryStep step (fun g call => Conserved (step g call).bridge) (Guest.initial abi memory) calls ↔
      EveryStep step KeepsBytes (Guest.initial abi memory) calls := by
  refine everyStep_congr (fun g => TableTiled g.bridge) (fun g call h => ⟨fun hconserved => ?_, fun hkeeps => ?_⟩)
    (fun g call h hkeeps => tableTiled_step h hkeeps) (tableTiled_initialized abi)
  · exact keepsBytes_of_tiled h hconserved.tiled
  · exact (tableTiled_step h hkeeps).conserved

end Calls

/-- A block is shrunk to a third and given back. -/
def shrunkAndFreed : List HeapCall := [.malloc 48, .realloc 0x40000000 16, .free 0x40000000]

/-- **`Realloc` to fewer bytes.** The heap reaches forty-eight bytes up, and its one block covers sixteen. -/
theorem heap_not_conserved :
    ¬ ∀ calls, EveryStep step (fun g call => Conserved (step g call).bridge)
      (Guest.initial (some LinuxABI.initial) zeros) calls := by
  intro h
  obtain ⟨-, -, hconserved, -⟩ := h shrunkAndFreed
  have hfree : ∀ b ∈ (run step (Guest.initial (some LinuxABI.initial) zeros) shrunkAndFreed).bridge.allocations,
      b.inUse = false := by decide +kernel
  have hlost : (run step (Guest.initial (some LinuxABI.initial) zeros) shrunkAndFreed).bridge.allocations ≠
      (run step (Guest.initial (some LinuxABI.initial) zeros) shrunkAndFreed).bridge.wholeHeap := by decide +kernel
  exact hlost (hconserved.whole hfree)

end GuideXOS.Abi
