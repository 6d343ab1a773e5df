import GuideXOS.Isa.EfiMapChange
import GuideXOS.Isa.EfiMapSound

/-!
# `EfiMapInvariant` — what the memory map keeps over every run of the allocators

`EfiMapInvariant` adds to a sound map that no live allocation overlaps another one or conventional memory.
Each allocator takes its pages from one conventional descriptor (`FitsIn`), which is what lets the new
allocation join the reserved ranges; each release gives back one of them. `efiMemoryMap_run_sound` reads the
invariant off at the end of any run of the services.
-/

namespace GuideXOS.Isa
open Lib Lib.Words Lib.Runs Lib.Segments GuideXOS.Core
open EfiMemoryDescriptor

/-! ## The invariant -/

/-- The addresses of an allocation. -/
def EfiAllocation.toRange (a : EfiAllocation) : Range := ⟨a.physicalStart.toNat, a.numberOfPages.toNat * 4096⟩

def EfiMemoryState.liveAllocations (m : EfiMemoryState) : List EfiAllocation :=
  m.efiPageAllocations ++ m.efiPoolAllocations

def Conventional (l : UInt32 × UInt64) : Prop := l.1 = EFI_MEMORY_CONVENTIONAL

/-- **The invariant**: the map is built for a memory of `memorySize` bytes, is sound, and no live allocation
    overlaps another or conventional memory. -/
structure EfiMapInvariant (memorySize : UInt64) (m : EfiMemoryState) : Prop where
  initialized : m.efiMemoryMapInitialized = true
  memorySize_eq : m.efiMemoryMapMemorySize = memorySize
  sound : MapSound (physicalEndOf memorySize).toNat m.efiMemoryMap
  reserved : Reserved Conventional (segments m.efiMemoryMap) (m.liveAllocations.map EfiAllocation.toRange)
  aligned : ∀ a ∈ m.liveAllocations, 4096 ∣ a.physicalStart.toNat

theorem dvd_physicalEndOf (memorySize : UInt64) : 4096 ∣ (physicalEndOf memorySize).toNat := by
  rw [physicalEndOf, and_not_page_toNat]
  exact Nat.dvd_mul_left _ _

section Services
variable {I M : Type _} [IMemory M]

/-- **`ensureEfiMemoryMap` establishes the invariant** where it builds the map. -/
theorem efiMapInvariant_ensure (g : EfiHandoffGlobals) {p : IA64ISAPlugin I} {memory : M}
    (h : p.memoryMap.efiMemoryMapInitialized = false) :
    EfiMapInvariant (getTotalSize memory) (ensureEfiMemoryMap g p memory).2.memoryMap := by
  unfold ensureEfiMemoryMap
  rw [if_neg (by rw [h]; exact fun h' => Bool.false_ne_true h'.1)]
  dsimp only
  split
  · next hsmall =>
      -- less than one page of memory: the map is empty, and so is the range it covers
      have hempty : (physicalEndOf (getTotalSize memory)).toNat = 0 := by
        rw [physicalEndOf, and_not_page_toNat]
        have hlt : (getTotalSize memory).toNat < 4096 := UInt64.lt_iff_toNat_lt.mp hsmall
        omega
      exact ⟨rfl, rfl, ⟨List.forall_mem_nil _, hempty.symm, List.IsChain.nil⟩, Reserved.nil,
        List.forall_mem_nil _⟩
  · exact ⟨rfl, rfl, (mapSound_firmwareMarks (dvd_physicalEndOf _) _
      (mapSound_conventional (dvd_physicalEndOf _)).1).1, Reserved.nil, List.forall_mem_nil _⟩

end Services

/-! ## Handing out and taking back -/

/-- The pages of `a`, all conventional before, have been given their new type in the map. -/
structure HandedOut (map map' : List EfiMemoryDescriptor) (a : EfiAllocation) : Prop where
  pos : 0 < a.numberOfPages.toNat
  aligned : 4096 ∣ a.physicalStart.toNat
  free : ∀ x, a.toRange.start ≤ x → x < a.toRange.stop → ∃ l, Labels (segments map) x l ∧ Conventional l
  retyped : Retyped a.toRange.start a.toRange.stop a.type map map'

/-- **What a change does**: conventional pages become a live allocation, or a live allocation turns conventional. -/
inductive EfiMapEffect (m m' : EfiMemoryState) : Prop
  | handedOut (a : EfiAllocation) (hout : HandedOut m.efiMemoryMap m'.efiMemoryMap a)
      (htype : a.type ≠ EFI_MEMORY_CONVENTIONAL) (hlive : (a :: m.liveAllocations).Perm m'.liveAllocations)
  | returned (a : EfiAllocation) (hlive : m.liveAllocations.Perm (a :: m'.liveAllocations))
      (hretyped : Retyped a.toRange.start a.toRange.stop EFI_MEMORY_CONVENTIONAL m.efiMemoryMap m'.efiMemoryMap)

namespace EfiMapInvariant
variable {memorySize : UInt64} {m m' : EfiMemoryState} {map : List EfiMemoryDescriptor} {a : EfiAllocation}

/-- **Handing out.** An allocation of conventional addresses, retyped, joins the reserved ranges. -/
theorem reserve (h : EfiMapInvariant memorySize m) (hout : HandedOut m.efiMemoryMap map a)
    (htype : a.type ≠ EFI_MEMORY_CONVENTIONAL) :
    Reserved Conventional (segments map) (a.toRange :: m.liveAllocations.map EfiAllocation.toRange) := by
  refine h.reserved.reserve h.sound.tiling ?_ hout.free ?_ ?_
  · exact Nat.mul_pos hout.pos (by decide)
  · intro x hlo hhi
    obtain ⟨l, hl, _⟩ := hout.free x hlo hhi
    exact ⟨(a.type, l.2), (hout.retyped _ _).mpr ⟨l, hl, if_pos ⟨hlo, hhi⟩⟩, htype⟩
  · intro x l hnot hl
    exact (hout.retyped _ _).mpr ⟨l, hl, if_neg hnot⟩

/-- **Taking back** one live allocation, whichever list it is in. -/
theorem release (h : EfiMapInvariant memorySize m) {type : UInt32} {live : List EfiAllocation}
    (hperm : m.liveAllocations.Perm (a :: live))
    (hretyped : Retyped a.toRange.start a.toRange.stop type m.efiMemoryMap map) :
    Reserved Conventional (segments map) (live.map EfiAllocation.toRange) := by
  refine (h.reserved.perm (hperm.map _)).release fun x l hout hl => ?_
  exact (hretyped _ _).mpr ⟨l, hl, if_neg hout⟩

/-- **Both effects keep the invariant.** -/
theorem of_effect (h : EfiMapInvariant memorySize m) (hinit : m'.efiMemoryMapInitialized = true)
    (hsize : m'.efiMemoryMapMemorySize = memorySize)
    (hsound : MapSound (physicalEndOf memorySize).toNat m'.efiMemoryMap) (heffect : EfiMapEffect m m') :
    EfiMapInvariant memorySize m' := by
  cases heffect with
  | handedOut a hout htype hlive =>
      refine ⟨hinit, hsize, hsound, (h.reserve hout htype).perm (hlive.map _), fun b hb => ?_⟩
      rcases List.mem_cons.mp (hlive.mem_iff.mpr hb) with rfl | hb
      · exact hout.aligned
      · exact h.aligned b hb
  | returned a hlive hretyped =>
      exact ⟨hinit, hsize, hsound, h.release hlive hretyped,
        fun b hb => h.aligned b (hlive.mem_iff.mpr (List.mem_cons_of_mem a hb))⟩

end EfiMapInvariant

namespace EfiMemoryState
variable {m m' : EfiMemoryState}

section
variable (m : EfiMemoryState) (map : List EfiMemoryDescriptor) (a : EfiAllocation)

theorem perm_publishPages : (a :: m.liveAllocations).Perm (m.publishPages map a).liveAllocations := by
  show (a :: m.liveAllocations).Perm (m.efiPageAllocations ++ [a] ++ m.efiPoolAllocations)
  rw [List.append_assoc]
  exact List.perm_middle.symm

theorem perm_publishPool : (a :: m.liveAllocations).Perm (m.publishPool map a).liveAllocations := by
  show (a :: m.liveAllocations).Perm (m.efiPageAllocations ++ (m.efiPoolAllocations ++ [a]))
  rw [← List.append_assoc]
  exact (List.perm_append_singleton a _).symm

end

/-- What both releases do: a live allocation leaves its list, and its pages turn conventional. -/
structure Released (m m' : EfiMemoryState) (a : EfiAllocation) : Prop where
  live : m.liveAllocations.Perm (a :: m'.liveAllocations)
  map : replaceEfiMemoryMapRange m.efiMemoryMap a.physicalStart a.numberOfPages EFI_MEMORY_CONVENTIONAL =
    some m'.efiMemoryMap

theorem released_pool {address : UInt64} (h : m.releasePool address = some m') : ∃ a, Released m m' a := by
  unfold releasePool at h
  split at h
  · cases h
  · next a hfind =>
      obtain ⟨map, hmap, rfl⟩ := Option.map_eq_some_iff.mp h
      have hperm : m.liveAllocations.Perm (a :: (m.efiPageAllocations ++ m.efiPoolAllocations.erase a)) :=
        ((List.perm_cons_erase (List.mem_of_find?_eq_some hfind)).append_left _).trans List.perm_middle
      exact ⟨a, hperm, hmap⟩

theorem released_image {physicalStart numberOfPages : UInt64}
    (h : m.releaseEfiImagePages physicalStart numberOfPages = some m') : ∃ a, Released m m' a := by
  unfold releaseEfiImagePages at h
  split at h
  · cases h
  · next a hfind =>
      obtain ⟨map, hmap, rfl⟩ := Option.map_eq_some_iff.mp h
      obtain ⟨rfl, rfl⟩ : a.physicalStart = physicalStart ∧ a.numberOfPages = numberOfPages := by
        simpa using List.find?_some hfind
      exact ⟨a, (List.perm_cons_erase (List.mem_of_find?_eq_some hfind)).append_right _, hmap⟩

end EfiMemoryState

/-! ## What the allocators choose -/

/-- The pages from `base` fit into a conventional descriptor. -/
structure FitsIn (d : EfiMemoryDescriptor) (base numberOfPages : UInt64) : Prop where
  conventional : d.type = EFI_MEMORY_CONVENTIONAL
  aligned : 4096 ∣ base.toNat
  start_le : d.toSegment.start ≤ base.toNat
  le_stop : base.toNat + numberOfPages.toNat * 4096 ≤ d.toSegment.stop

variable {base : UInt64} {map : List EfiMemoryDescriptor}

theorem selectDescriptor_some {fits : EfiMemoryDescriptor → Option UInt64} {selected : Nat}
    (h : selectDescriptor fits map = some (selected, base)) : ∃ d, map[selected]? = some d ∧ fits d = some base := by
  obtain ⟨⟨d, i⟩, hmem, hfits⟩ := List.exists_of_findSome?_eq_some h
  obtain ⟨base', hbase, heq⟩ := Option.map_eq_some_iff.mp hfits
  cases heq
  exact ⟨d, List.mem_zipIdx_iff_getElem?.mp (List.mem_reverse.mp hmem), hbase⟩

/-- A page address has no bits below the page size. -/
theorem and_eq_zero_of_dvd {x y : UInt64} (hx : 4096 ∣ x.toNat) (hy : y.toNat < 4096) : x &&& y = 0 := by
  have hmask : y.toNat = (2 ^ 12 - 1) &&& y.toNat := by
    rw [Nat.land_comm, Nat.and_two_pow_sub_one_eq_mod, Nat.mod_eq_of_lt hy]
  refine UInt64.toNat_inj.mp ?_
  rw [UInt64.toNat_and, hmask, ← Nat.land_assoc, Nat.and_two_pow_sub_one_eq_mod, Nat.mod_eq_zero_of_dvd hx,
    Nat.zero_and]
  rfl

variable {d : EfiMemoryDescriptor} {numberOfPages : UInt64}

/-- The pages at the end of a descriptor that has enough of them. -/
theorem fitsIn_end (hd : d.WellFormed) (h : ¬(d.type ≠ EFI_MEMORY_CONVENTIONAL ∨ d.numberOfPages < numberOfPages)) :
    FitsIn d (d.endAddress - numberOfPages * EFI_PAGE_SIZE) numberOfPages := by
  rw [not_or, not_not, not_lt, UInt64.le_iff_toNat_le] at h
  have hbound := hd.bounded
  have hstop : d.toSegment.stop = d.physicalStart.toNat + d.numberOfPages.toNat * 4096 := rfl
  have hend := endAddress_toNat hd
  have hbytes : (numberOfPages * EFI_PAGE_SIZE).toNat = numberOfPages.toNat * 4096 := pages_toNat (by omega)
  have hbase : (d.endAddress - numberOfPages * EFI_PAGE_SIZE).toNat =
      d.toSegment.stop - numberOfPages.toNat * 4096 := by
    rw [UInt64.toNat_sub_of_le _ _ (UInt64.le_iff_toNat_le.mpr (by omega)), hend, hbytes]
  refine ⟨h.1, ?_, ?_, ?_⟩
  · rw [hbase, ← hend]
    exact Nat.dvd_sub (dvd_endAddress hd) (Nat.dvd_mul_left _ _)
  · show d.physicalStart.toNat ≤ _
    omega
  · omega

theorem fitsIn_image (hd : d.WellFormed) (h : fitsImagePages numberOfPages d = some base) :
    FitsIn d base numberOfPages := by
  unfold fitsImagePages at h
  split at h
  · cases h
  · next hfits =>
      obtain rfl := Option.some.inj h
      exact fitsIn_end hd hfits

/-- The end of a descriptor is a page address, so it has every alignment up to the page size and the
    allocator never aligns it down. -/
theorem fitsIn_pool {alignment : UInt64} (hd : d.WellFormed) (hpos : alignment ≠ 0)
    (hle : ¬ alignment > EFI_PAGE_SIZE) (h : fitsPool numberOfPages alignment d = some base) :
    FitsIn d base numberOfPages := by
  unfold fitsPool at h
  split at h
  · cases h
  · next hfits =>
      have hend := fitsIn_end hd hfits
      have hmask : (alignment - 1).toNat < 4096 := by
        have hle' : alignment.toNat ≤ 4096 := UInt64.le_iff_toNat_le.mp (not_lt.mp hle)
        have hpos' : 0 < alignment.toNat := Nat.pos_of_ne_zero fun h => hpos (UInt64.toNat_inj.mp h)
        have hone : (1 : UInt64) ≤ alignment := UInt64.le_iff_toNat_le.mpr hpos'
        rw [UInt64.toNat_sub_of_le _ _ hone, UInt64.toNat_one]
        omega
      rw [if_pos (and_eq_zero_of_dvd hend.aligned hmask)] at h
      obtain rfl := Option.some.inj h
      exact hend

theorem fitsIn_allocatePages {allocationType : UInt32} {inputMemory : UInt64} (hd : d.WellFormed)
    (hcount : numberOfPages.toNat * 4096 < 2 ^ 64)
    (haddress : allocationType = EFI_ALLOCATE_ADDRESS → 4096 ∣ inputMemory.toNat)
    (h : fitsAllocatePages allocationType inputMemory (numberOfPages * EFI_PAGE_SIZE) d = some base) :
    FitsIn d base numberOfPages := by
  have hend := endAddress_toNat hd
  have hbytes := pages_toNat hcount
  -- both policies end with the same check, on the requested or on the computed base
  have hcheck : ∀ base : UInt64, 4096 ∣ base.toNat → d.type = EFI_MEMORY_CONVENTIONAL → d.physicalStart ≤ base →
      base ≤ d.endAddress → numberOfPages * EFI_PAGE_SIZE ≤ d.endAddress - base → FitsIn d base numberOfPages := by
    intro base hdvd htype hstart hle hroom
    rw [UInt64.le_iff_toNat_le, UInt64.toNat_sub_of_le _ _ hle, hbytes] at hroom
    have hle' := UInt64.le_iff_toNat_le.mp hle
    exact ⟨htype, hdvd, UInt64.le_iff_toNat_le.mp hstart, by omega⟩
  unfold fitsAllocatePages at h
  split at h
  · cases h
  · next htype =>
      have htype := not_not.mp htype
      dsimp only at h
      split at h
      · next hpolicy =>
          split at h
          · next hfits =>
              obtain rfl := Option.some.inj h
              exact hcheck _ (haddress hpolicy) htype hfits.1 hfits.2.1 hfits.2.2
          · cases h
      · -- whatever bounds the search from above, the computed base is checked
        generalize (if allocationType = EFI_ALLOCATE_MAX_ADDRESS then min (d.endAddress - 1) inputMemory
          else d.endAddress - 1) = allowedEnd at h
        split at h
        · cases h
        · split at h
          · cases h
          · next hfits =>
              rw [not_or, not_or, not_lt, gt_iff_lt, not_lt, gt_iff_lt, not_lt] at hfits
              obtain rfl := Option.some.inj h
              refine hcheck _ ?_ htype hfits.1 hfits.2.1 hfits.2.2
              rw [and_not_page_toNat]
              exact Nat.dvd_mul_left _ _

/-- `AllocatePages` splits by index what the other allocators split by address. -/
theorem represents_splitSelected {lo hi selected : Nat} (h : MapTiles lo hi map) (hget : map[selected]? = some d)
    (hfits : FitsIn d base numberOfPages) (hpos : 0 < numberOfPages.toNat) (type : UInt32) :
    Represents (splitSelected map selected base numberOfPages type)
      (overlay base.toNat (base.toNat + numberOfPages.toNat * 4096) (fun l => (type, l.2)) (segments map)) := by
  obtain ⟨hlt, rfl⟩ := List.getElem?_eq_some_iff.mp hget
  have hsplit : map.take selected ++ map[selected] :: map.drop (selected + 1) = map := by
    rw [List.getElem_cons_drop, List.take_append_drop]
  have hwf := h.wellFormed
  have htile := h.tiling
  rw [← hsplit] at hwf htile
  obtain ⟨hpre, hrest⟩ := List.forall_mem_append.mp hwf
  obtain ⟨hd, hpost⟩ := List.forall_mem_cons.mp hrest
  have hsegs : segments (map.take selected ++ map[selected] :: map.drop (selected + 1)) =
      segments (map.take selected) ++ map[selected].toSegment :: segments (map.drop (selected + 1)) := by
    rw [segments, List.map_append, List.map_cons, ← segments, ← segments]
  rw [hsegs] at htile
  have hover := overlay_inside (f := fun l => (type, l.2)) htile hfits.start_le hfits.le_stop
  rw [← hsegs, hsplit] at hover
  rw [hover]
  unfold splitSelected
  rw [hget]
  dsimp only
  refine ((Represents.mk hpre rfl).append ?_).append ⟨hpost, rfl⟩
  -- the cut of the selected descriptor, whose range lies inside
  have hend := endAddress_toNat hd
  have hbound := hd.bounded
  have hle := hfits.le_stop
  have hstart := hfits.start_le
  have hstop : map[selected].toSegment.stop =
      map[selected].physicalStart.toNat + map[selected].numberOfPages.toNat * 4096 := rfl
  have hselected : (base + numberOfPages * EFI_PAGE_SIZE).toNat = base.toNat + numberOfPages.toNat * 4096 := by
    rw [UInt64.toNat_add, pages_toNat (by omega), Nat.mod_eq_of_lt (by omega)]
  have hdvd : 4096 ∣ (base + numberOfPages * EFI_PAGE_SIZE).toNat := by
    rw [hselected]
    exact (Nat.dvd_add_right hfits.aligned).mpr (Nat.dvd_mul_left _ _)
  have hpieces := ((represents_piece hd.aligned hfits.aligned map[selected].type map[selected].attributes).append
    (Represents.singleton (d := ⟨type, base, numberOfPages, map[selected].attributes⟩)
      ⟨hfits.aligned, by show base.toNat + numberOfPages.toNat * 4096 < 2 ^ 64; omega⟩)).append
    (represents_piece hdvd (dvd_endAddress hd) map[selected].type map[selected].attributes)
  have hmeet : ¬(map[selected].toSegment.stop ≤ base.toNat ∨
      base.toNat + numberOfPages.toNat * 4096 ≤ map[selected].toSegment.start) := by omega
  rw [cut, if_neg hmeet, max_eq_right hstart, min_eq_right hle, Nat.add_sub_cancel_left]
  rw [hselected, hend] at hpieces
  exact hpieces

section Chosen
variable {physicalEnd : Nat} {map map' : List EfiMemoryDescriptor} {d : EfiMemoryDescriptor} {selected : Nat}
  {base numberOfPages : UInt64} {type : UInt32}

/-- The addresses an allocator chose are conventional. -/
theorem conventional_of_fitsIn (hget : map[selected]? = some d) (hfits : FitsIn d base numberOfPages) {x : Nat}
    (hlo : base.toNat ≤ x) (hhi : x < base.toNat + numberOfPages.toNat * 4096) :
    ∃ l, Labels (segments map) x l ∧ Conventional l := by
  have hmem : d ∈ map := List.mem_of_getElem? hget
  have hstart := hfits.start_le
  have hstop := hfits.le_stop
  exact ⟨(d.type, d.attributes), ⟨d.toSegment, List.mem_map_of_mem hmem, ⟨by omega, by omega⟩, rfl⟩,
    hfits.conventional⟩

/-- **An allocation by address range**, as `replaceEfiMemoryMapRange` makes it. -/
theorem handedOut_replace (h : MapSound physicalEnd map) (hget : map[selected]? = some d)
    (hfits : FitsIn d base numberOfPages)
    (hmap : replaceEfiMemoryMapRange map base numberOfPages type = some map') :
    MapSound physicalEnd map' ∧ HandedOut map map' ⟨base, numberOfPages, type⟩ := by
  obtain ⟨hpos, hsound, hretyped⟩ := mapSound_replace h hfits.aligned hmap
  exact ⟨hsound, hpos, hfits.aligned, fun x hlo hhi => conventional_of_fitsIn hget hfits hlo hhi, hretyped⟩

/-- **An allocation by descriptor**, as `AllocatePages` makes it. -/
theorem handedOut_splitSelected (h : MapSound physicalEnd map) (hget : map[selected]? = some d)
    (hfits : FitsIn d base numberOfPages) (hpos : 0 < numberOfPages.toNat) (type : UInt32) :
    MapSound physicalEnd ((splitSelected map selected base numberOfPages type).foldl mergeDescriptor []) ∧
      HandedOut map ((splitSelected map selected base numberOfPages type).foldl mergeDescriptor [])
        ⟨base, numberOfPages, type⟩ := by
  have hrep := represents_splitSelected h.toMapTiles hget hfits hpos type
  obtain ⟨hsound, hlabels⟩ := MapSound.of_tiling hrep (h.tiling.overlay (by omega) _)
  exact ⟨hsound, hpos, hfits.aligned, fun x hlo hhi => conventional_of_fitsIn hget hfits hlo hhi,
    fun x l => (hlabels x l).trans labels_overlay⟩

end Chosen

theorem ne_conventional_of_allocatable {type : UInt32} (h : ¬ (!isAllocatableType type) = true) :
    type ≠ EFI_MEMORY_CONVENTIONAL := by
  rintro rfl
  exact h (by decide)

theorem ne_conventional_of_pool {type : UInt32} (h : ¬ (!isValidEfiPoolType type) = true) :
    type ≠ EFI_MEMORY_CONVENTIONAL := by
  rintro rfl
  exact h (by decide)

theorem toNat_pos_of_ne_zero {x : UInt64} (h : x ≠ 0) : 0 < x.toNat :=
  Nat.pos_of_ne_zero fun hzero => h (UInt64.toNat_inj.mp hzero)

/-! ## One change, one service -/

section Services
variable {I M : Type _} [IMemory M] {p : IA64ISAPlugin I} {memorySize : UInt64}

theorem EfiMapInvariant.builtFor {m : EfiMemoryState} (h : EfiMapInvariant memorySize m) :
    m.BuiltFor memorySize := ⟨h.initialized, h.memorySize_eq⟩

/-- **The effect of every change**, on a map that satisfies the invariant. -/
theorem EfiMapChange.effect {m m' : EfiMemoryState} (h : EfiMapInvariant memorySize m) (hchange : EfiMapChange m m') :
    MapSound (physicalEndOf memorySize).toNat m'.efiMemoryMap ∧ EfiMapEffect m m' := by
  cases hchange with
  | @allocatePages _ memoryType _ _ _ _ hcount htype haddress hselect =>
      obtain ⟨d, hget, hfits⟩ := selectDescriptor_some hselect
      have hd : d.WellFormed := h.sound.wellFormed d (List.mem_of_getElem? hget)
      rw [not_or] at hcount
      have hfitsIn := fitsIn_allocatePages hd (pages_lt hcount.2) (fun hpolicy => ?_) hfits
      · obtain ⟨hsound, hout⟩ := handedOut_splitSelected h.sound hget hfitsIn (toNat_pos_of_ne_zero hcount.1) memoryType
        exact ⟨hsound, .handedOut _ hout (ne_conventional_of_allocatable htype) (m.perm_publishPages _ _)⟩
      · rw [Nat.dvd_iff_mod_eq_zero, ← and_page_toNat, haddress hpolicy]
        rfl
  | allocateImagePages htype hselect hmap =>
      obtain ⟨d, hget, hfits⟩ := selectDescriptor_some hselect
      have hfitsIn := fitsIn_image (h.sound.wellFormed d (List.mem_of_getElem? hget)) hfits
      obtain ⟨hsound, hout⟩ := handedOut_replace h.sound hget hfitsIn hmap
      exact ⟨hsound, .handedOut _ hout (ne_conventional_of_allocatable htype) (m.perm_publishPages _ _)⟩
  | allocatePool htype hpos hle hselect hmap =>
      obtain ⟨d, hget, hfits⟩ := selectDescriptor_some hselect
      have hfitsIn := fitsIn_pool (h.sound.wellFormed d (List.mem_of_getElem? hget)) hpos hle hfits
      obtain ⟨hsound, hout⟩ := handedOut_replace h.sound hget hfitsIn hmap
      exact ⟨hsound, .handedOut _ hout (ne_conventional_of_pool htype) (m.perm_publishPool _ _)⟩
  | releasePool hrelease =>
      obtain ⟨a, hlive, hmap⟩ := EfiMemoryState.released_pool hrelease
      have ha := h.aligned a (hlive.mem_iff.mpr List.mem_cons_self)
      obtain ⟨_, hsound, hretyped⟩ := mapSound_replace h.sound ha hmap
      exact ⟨hsound, .returned a hlive hretyped⟩
  | releaseImagePages hrelease =>
      obtain ⟨a, hlive, hmap⟩ := EfiMemoryState.released_image hrelease
      have ha := h.aligned a (hlive.mem_iff.mpr List.mem_cons_self)
      obtain ⟨_, hsound, hretyped⟩ := mapSound_replace h.sound ha hmap
      exact ⟨hsound, .returned a hlive hretyped⟩

/-- **Every change keeps the invariant.** -/
theorem EfiMapInvariant.change {m m' : EfiMemoryState} (h : EfiMapInvariant memorySize m)
    (hchange : EfiMapChange m m') : EfiMapInvariant memorySize m' := by
  obtain ⟨hinit, hsize⟩ := hchange.builtFor h.builtFor
  obtain ⟨hsound, heffect⟩ := hchange.effect h
  exact h.of_effect hinit hsize hsound heffect

/-- **Step lemma.** Every service keeps the invariant. -/
theorem efiMapInvariant_step [LawfulIMemory M] {call : EfiMapCall M} (h : EfiMapInvariant memorySize p.memoryMap)
    (hsize : getTotalSize call.memory = memorySize) :
    EfiMapInvariant memorySize (EfiMapCall.step p call).memoryMap := by
  subst hsize
  exact (changes_step h.builtFor).invariant (fun _ _ hs hchange => hs.change hchange) h

end Services

/-! ## What the invariant says of the descriptors -/

namespace EfiMemoryDescriptor

/-- The addresses of a descriptor. -/
def Contains (d : EfiMemoryDescriptor) (x : Nat) : Prop :=
  d.physicalStart.toNat ≤ x ∧ x < d.physicalStart.toNat + d.numberOfPages.toNat * 4096

end EfiMemoryDescriptor

/-- The addresses of an allocation. -/
def EfiAllocation.Contains (a : EfiAllocation) (x : Nat) : Prop :=
  a.physicalStart.toNat ≤ x ∧ x < a.physicalStart.toNat + a.numberOfPages.toNat * 4096

/-- **The memory map as the guest may rely on it**, for a memory of `memorySize` bytes. -/
structure EfiMemoryState.Sound (memorySize : UInt64) (m : EfiMemoryState) : Prop where
  sorted : m.efiMemoryMap.Pairwise fun d e => d.physicalStart < e.physicalStart
  aligned : ∀ d ∈ m.efiMemoryMap, d.physicalStart.toNat % 4096 = 0
  nonempty : ∀ d ∈ m.efiMemoryMap, d.numberOfPages ≠ 0
  disjoint : m.efiMemoryMap.Pairwise fun d e => ∀ x, d.Contains x → ¬ e.Contains x
  contiguous : m.efiMemoryMap.IsChain fun d e =>
    d.physicalStart.toNat + d.numberOfPages.toNat * 4096 = e.physicalStart.toNat
  covered : ∀ x, (∃ d ∈ m.efiMemoryMap, d.Contains x) ↔ x < memorySize.toNat / 4096 * 4096
  maximal : m.efiMemoryMap.IsChain fun d e => ¬(d.type = e.type ∧ d.attributes = e.attributes)
  live_disjoint : m.liveAllocations.Pairwise fun a b => ∀ x, a.Contains x → ¬ b.Contains x
  live_reserved : ∀ a ∈ m.liveAllocations, ∀ x, a.Contains x →
    ∃ d ∈ m.efiMemoryMap, d.Contains x ∧ d.type ≠ EFI_MEMORY_CONVENTIONAL

/-- **From segments back to descriptors.** -/
theorem EfiMapInvariant.toSound {memorySize : UInt64} {m : EfiMemoryState} (h : EfiMapInvariant memorySize m) :
    m.Sound memorySize := by
  have hend : (physicalEndOf memorySize).toNat = memorySize.toNat / 4096 * 4096 := and_not_page_toNat memorySize
  have htile := h.sound.tiling
  have horder : m.efiMemoryMap.Pairwise fun d e => d.toSegment.stop ≤ e.toSegment.start :=
    List.pairwise_map.mp htile.pairwise
  have hpos : ∀ d ∈ m.efiMemoryMap, 0 < d.toSegment.length := fun d hd =>
    (htile.mem (List.mem_map_of_mem hd)).2.2
  constructor
  case sorted =>
    refine horder.imp_of_mem fun {d e} hd _ hle => ?_
    have hlen := hpos d hd
    refine UInt64.lt_iff_toNat_lt.mpr (lt_of_lt_of_le ?_ hle)
    exact Nat.lt_add_of_pos_right hlen
  case aligned => exact fun d hd => Nat.mod_eq_zero_of_dvd (h.sound.wellFormed d hd).aligned
  case nonempty => exact represents_pages_pos ⟨h.sound.wellFormed, rfl⟩ htile
  case disjoint =>
    exact horder.imp fun {d e} hle x hd he => absurd (lt_of_lt_of_le hd.2 hle) (not_lt.mpr he.1)
  case contiguous => exact (List.isChain_map toSegment).mp htile.contiguous
  case covered =>
    intro x
    rw [← hend]
    have hcover := htile.exists_labels_iff x
    constructor
    · rintro ⟨d, hd, hx⟩
      exact (hcover.mp ⟨_, d.toSegment, List.mem_map_of_mem hd, hx, rfl⟩).2
    · intro hx
      obtain ⟨_, s, hs, hcontains, _⟩ := hcover.mpr ⟨Nat.zero_le x, hx⟩
      obtain ⟨d, hd, rfl⟩ := List.mem_map.mp hs
      exact ⟨d, hd, hcontains⟩
  case maximal =>
    exact ((List.isChain_map toSegment).mp h.sound.merged).imp fun _ _ hne heq => hne (Prod.ext heq.1 heq.2)
  case live_disjoint =>
    refine (List.pairwise_map.mp h.reserved.disjoint).imp fun {a b} hdisj x ha hb => ?_
    rcases hdisj with hle | hle
    · exact absurd (lt_of_lt_of_le ha.2 hle) (not_lt.mpr hb.1)
    · exact absurd (lt_of_lt_of_le hb.2 hle) (not_lt.mpr ha.1)
  case live_reserved =>
    intro a ha x hx
    obtain ⟨_, ⟨s, hs, hcontains, rfl⟩, htype⟩ :=
      h.reserved.taken _ (List.mem_map_of_mem ha) x hx.1 hx.2
    obtain ⟨d, hd, rfl⟩ := List.mem_map.mp hs
    exact ⟨d, hd, hcontains, htype⟩

/-! ## The run -/

/-- **The memory map over a run.** From the map that `ensureEfiMemoryMap` builds, every sequence of service
    calls, successful or not, keeps it sound. -/
theorem efiMemoryMap_run_sound {I M : Type _} [IMemory M] [LawfulIMemory M] (g : EfiHandoffGlobals)
    (p : IA64ISAPlugin I) (memory : M) (calls : List (EfiMapCall M))
    (hp : p.memoryMap.efiMemoryMapInitialized = false)
    (hcalls : ∀ call ∈ calls, getTotalSize call.memory = getTotalSize memory) :
    (run EfiMapCall.step (ensureEfiMemoryMap g p memory).2 calls).memoryMap.Sound (getTotalSize memory) := by
  refine EfiMapInvariant.toSound (run_invariant
    (fun p : IA64ISAPlugin I => EfiMapInvariant (getTotalSize memory) p.memoryMap)
    (fun _ _ h hsize => efiMapInvariant_step h hsize) (efiMapInvariant_ensure g hp) (everyStep_of_forall hcalls))

/-- Four mebibytes of zeroed guest memory. -/
def zeroedMemory : FlatMemory := ⟨List.replicate 0x400000 0⟩

/-- A pool allocation, a release of nothing, an image allocation and its release. -/
theorem efiMemoryMap_run_sound_zeroed :
    (run EfiMapCall.step
      (ensureEfiMemoryMap resetEfiHandoffLayoutGlobals (IA64ISAPlugin.reset (I := Unit)).2 zeroedMemory).2
      [⟨resetEfiHandoffLayoutGlobals, .reset, zeroedMemory, .allocatePool 0x60 EFI_MEMORY_BOOT_SERVICES_DATA 0⟩,
        ⟨resetEfiHandoffLayoutGlobals, .reset, zeroedMemory, .freePool⟩,
        ⟨resetEfiHandoffLayoutGlobals, .reset, zeroedMemory, .allocateImagePages 2 EFI_MEMORY_LOADER_CODE⟩,
        ⟨resetEfiHandoffLayoutGlobals, .reset, zeroedMemory, .releaseImagePages 0x1FE000 2⟩]).memoryMap.Sound
      (getTotalSize zeroedMemory) :=
  efiMemoryMap_run_sound _ _ _ _ rfl fun call hcall => by
    simp only [List.mem_cons, List.not_mem_nil, or_false] at hcall
    rcases hcall with rfl | rfl | rfl | rfl <;> rfl

end GuideXOS.Isa
