import GuideXOS.Isa.EfiMapInvariant

/-!
# `EfiMapReturn` — pages that are handed out and given back

An allocator either changes nothing or hands out pages that were conventional (`HandedOut`). A sound map is determined
by what it says of each address (`MapSound.eq_of_labels`), so giving the pages back with nothing in between restores
the very map (`releasePool_publishPool`, `releaseImage_publishPages`). With other calls in between, the pages are again
what they were before the allocation, and every other page is what the other calls left.
-/

/-!
## What replacing a range of the memory map does, page by page

`replaceEfiMemoryMapRange` is the only way a range gets another type after the map is built, but for the split that
`AllocatePages` makes itself. It either refuses and leaves the map alone, or gives the pages of the range the new type,
and no page another type or other attributes (`replaceEfiMemoryMapRange_exact`). The map may start anywhere: nothing
here depends on what `ensureEfiMemoryMap` builds.
-/

namespace GuideXOS.Isa
open Lib Lib.Words Lib.Runs Lib.Segments GuideXOS.Core
open EfiMemoryDescriptor

/-- **A well-formed map** is page aligned, sorted, without gaps and maximally merged. -/
structure WellFormedMap (map : List EfiMemoryDescriptor) : Prop where
  wellFormed : ∀ d ∈ map, d.WellFormed
  nonempty : ∀ d ∈ map, 0 < d.numberOfPages.toNat
  sorted : map.Pairwise fun d e => d.physicalStart < e.physicalStart
  contiguous : map.IsChain fun d e => d.physicalStart.toNat + d.numberOfPages.toNat * 4096 = e.physicalStart.toNat
  maximal : map.IsChain fun d e => ¬(d.type = e.type ∧ d.attributes = e.attributes)

/-- The map gives the address `x` this type and these attributes. -/
def Describes (map : List EfiMemoryDescriptor) (x : Nat) (type : UInt32) (attributes : UInt64) : Prop :=
  ∃ d ∈ map, d.Contains x ∧ d.type = type ∧ d.attributes = attributes

variable {map : List EfiMemoryDescriptor}

theorem describes_iff {x : Nat} {type : UInt32} {attributes : UInt64} :
    Describes map x type attributes ↔ Labels (segments map) x (type, attributes) := by
  constructor
  · rintro ⟨d, hd, hx, rfl, rfl⟩
    exact ⟨d.toSegment, List.mem_map_of_mem hd, hx, rfl⟩
  · rintro ⟨s, hs, hx, hlabel⟩
    obtain ⟨d, hd, rfl⟩ := List.mem_map.mp hs
    exact ⟨d, hd, hx, congrArg Prod.fst hlabel, congrArg Prod.snd hlabel⟩

/-! ## Well-formed maps are tilings -/

theorem WellFormedMap.exists_mapTiles (h : WellFormedMap map) : ∃ lo hi, MapTiles lo hi map := by
  have hpos : ∀ s ∈ segments map, 0 < s.length := by
    intro s hs
    obtain ⟨d, hd, rfl⟩ := List.mem_map.mp hs
    exact Nat.mul_pos (h.nonempty d hd) (by decide)
  obtain ⟨lo, hi, htile⟩ := exists_tiling hpos ((List.isChain_map toSegment).mpr h.contiguous)
  refine ⟨lo, hi, h.wellFormed, htile, (List.isChain_map toSegment).mpr (h.maximal.imp fun _ _ hne heq => ?_)⟩
  exact hne ⟨congrArg Prod.fst heq, congrArg Prod.snd heq⟩

theorem MapTiles.wellFormedMap {lo hi : Nat} (h : MapTiles lo hi map) : WellFormedMap map := by
  have hpos : ∀ d ∈ map, 0 < d.toSegment.length := fun d hd => (h.tiling.mem (List.mem_map_of_mem hd)).2.2
  constructor
  case wellFormed => exact h.wellFormed
  case nonempty => exact fun d hd => Nat.pos_of_mul_pos_right (hpos d hd)
  case sorted =>
    have horder : map.Pairwise fun d e => d.toSegment.stop ≤ e.toSegment.start :=
      List.pairwise_map.mp h.tiling.pairwise
    refine horder.imp_of_mem fun {d e} hd _ hle => UInt64.lt_iff_toNat_lt.mpr (lt_of_lt_of_le ?_ hle)
    exact Nat.lt_add_of_pos_right (hpos d hd)
  case contiguous => exact (List.isChain_map toSegment).mp h.tiling.contiguous
  case maximal =>
    exact ((List.isChain_map toSegment).mp h.merged).imp fun _ _ hne heq => hne (Prod.ext heq.1 heq.2)

/-! ## Replacing a range -/

/-- `replaceEfiMemoryMapRange` on the plugin's tables. The new map is swapped in at the end. -/
def EfiMemoryState.replaceRange (m : EfiMemoryState) (physicalStart numberOfPages : UInt64) (type : UInt32) :
    Bool × EfiMemoryState :=
  match replaceEfiMemoryMapRange m.efiMemoryMap physicalStart numberOfPages type with
  | none => (false, m)
  | some map => (true, { m with efiMemoryMap := map })

/-- The address `x` lies in the range. -/
def InRange (physicalStart numberOfPages : UInt64) (x : Nat) : Prop :=
  physicalStart.toNat ≤ x ∧ x < physicalStart.toNat + numberOfPages.toNat * 4096

instance (physicalStart numberOfPages : UInt64) (x : Nat) : Decidable (InRange physicalStart numberOfPages x) :=
  inferInstanceAs (Decidable (_ ∧ _))

theorem describes_of_retyped {map' : List EfiMemoryDescriptor} {physicalStart numberOfPages : UInt64}
    {type : UInt32}
    (h : Retyped physicalStart.toNat (physicalStart.toNat + numberOfPages.toNat * 4096) type map map') (x : Nat)
    (t : UInt32) (a : UInt64) :
    Describes map' x t a ↔
      if InRange physicalStart numberOfPages x then t = type ∧ ∃ t', Describes map x t' a else Describes map x t a := by
  rw [describes_iff, h x (t, a)]
  by_cases hx : physicalStart.toNat ≤ x ∧ x < physicalStart.toNat + numberOfPages.toNat * 4096
  · rw [if_pos (show InRange physicalStart numberOfPages x from hx)]
    constructor
    · rintro ⟨l, hl, heq⟩
      rw [if_pos hx] at heq
      cases heq
      exact ⟨rfl, l.1, describes_iff.mpr hl⟩
    · rintro ⟨rfl, t', ht'⟩
      exact ⟨(t', a), describes_iff.mp ht', if_pos hx⟩
  · rw [if_neg (show ¬ InRange physicalStart numberOfPages x from hx)]
    constructor
    · rintro ⟨l, hl, heq⟩
      rw [if_neg hx] at heq
      exact describes_iff.mpr (heq ▸ hl)
    · exact fun ht => ⟨(t, a), describes_iff.mp ht, if_neg hx⟩

/-- The map has every address of the range. -/
theorem MapTiles.covers_iff {lo hi : Nat} (h : MapTiles lo hi map) {physicalStart numberOfPages : UInt64}
    (hpos : 0 < numberOfPages.toNat) :
    (∀ x, InRange physicalStart numberOfPages x → ∃ t a, Describes map x t a) ↔
      lo ≤ physicalStart.toNat ∧ physicalStart.toNat + numberOfPages.toNat * 4096 ≤ hi := by
  have hcover : ∀ x, (∃ t a, Describes map x t a) ↔ lo ≤ x ∧ x < hi := by
    intro x
    rw [← h.tiling.exists_labels_iff x, Prod.exists]
    exact exists_congr fun t => exists_congr fun a => describes_iff
  simp only [hcover, InRange]
  constructor
  · intro hall
    have hfirst := hall physicalStart.toNat ⟨le_refl _, by omega⟩
    have hlast := hall (physicalStart.toNat + numberOfPages.toNat * 4096 - 1) ⟨by omega, by omega⟩
    omega
  · rintro ⟨hlo, hhi⟩ x ⟨hx, hx'⟩
    omega

/-- **`replaceEfiMemoryMapRange` is exact.** It succeeds where the map has every page of a range that is not empty;
    then these pages have the new type, and everything else is as it was. -/
theorem replaceEfiMemoryMapRange_exact : ∀ (m : EfiMemoryState) (physicalStart numberOfPages : UInt64) (type : UInt32),
    WellFormedMap m.efiMemoryMap → 4096 ∣ physicalStart.toNat →
    ((m.replaceRange physicalStart numberOfPages type).1 = true ↔ numberOfPages ≠ 0 ∧
        ∀ x, InRange physicalStart numberOfPages x → ∃ t a, Describes m.efiMemoryMap x t a) ∧
      ((m.replaceRange physicalStart numberOfPages type).1 = false →
        (m.replaceRange physicalStart numberOfPages type).2 = m) ∧
      ((m.replaceRange physicalStart numberOfPages type).1 = true →
        ∃ map, (m.replaceRange physicalStart numberOfPages type).2 = { m with efiMemoryMap := map } ∧
          WellFormedMap map ∧ ∀ x t a, Describes map x t a ↔
            if InRange physicalStart numberOfPages x then t = type ∧ ∃ t', Describes m.efiMemoryMap x t' a
            else Describes m.efiMemoryMap x t a) := by
  intro m physicalStart numberOfPages type hmap hdvd
  obtain ⟨lo, hi, htiles⟩ := hmap.exists_mapTiles
  have hreplace := htiles.replace hdvd numberOfPages type
  have hcovers : (numberOfPages ≠ 0 ∧ ∀ x, InRange physicalStart numberOfPages x →
      ∃ t a, Describes m.efiMemoryMap x t a) ↔ 0 < numberOfPages.toNat ∧ lo ≤ physicalStart.toNat ∧
        physicalStart.toNat + numberOfPages.toNat * 4096 ≤ hi := by
    have hne : numberOfPages ≠ 0 ↔ 0 < numberOfPages.toNat := by
      rw [Nat.pos_iff_ne_zero, ne_eq, ne_eq, ← UInt64.toNat_inj]
      rfl
    rw [hne]
    exact and_congr_right fun hpos => htiles.covers_iff hpos
  unfold EfiMemoryState.replaceRange
  rw [hcovers]
  split at hreplace
  case isTrue hin =>
    obtain ⟨map, hsome, hmap', hretyped⟩ := hreplace
    rw [hsome]
    refine ⟨⟨fun _ => hin, fun _ => rfl⟩, fun h => (Bool.noConfusion h), fun _ => ⟨map, rfl, ?_, ?_⟩⟩
    · exact hmap'.wellFormedMap
    · exact describes_of_retyped hretyped
  case isFalse hout =>
    rw [hreplace]
    exact ⟨⟨fun h => (Bool.noConfusion h), fun hin => absurd hin hout⟩, fun _ => rfl, fun h => (Bool.noConfusion h)⟩

/-- The second page of four. -/
theorem replaceEfiMemoryMapRange_exact_page :
    (∀ x, InRange 0x1000 1 x → ∃ t a, Describes [⟨EFI_MEMORY_CONVENTIONAL, 0, 4, EFI_MEMORY_ATTRIBUTES⟩] x t a) ∧
      (EfiMemoryState.replaceRange
        { efiMemoryMap := [⟨EFI_MEMORY_CONVENTIONAL, 0, 4, EFI_MEMORY_ATTRIBUTES⟩] } 0x1000 1
        EFI_MEMORY_LOADER_DATA).1 = true := by
  have hexact := replaceEfiMemoryMapRange_exact
    { efiMemoryMap := [⟨EFI_MEMORY_CONVENTIONAL, 0, 4, EFI_MEMORY_ATTRIBUTES⟩] } 0x1000 1 EFI_MEMORY_LOADER_DATA
    ⟨List.forall_mem_singleton.mpr ⟨by decide, by decide⟩, List.forall_mem_singleton.mpr (by decide),
      List.pairwise_singleton _ _, List.IsChain.singleton _, List.IsChain.singleton _⟩ (by decide)
  have hdone : (EfiMemoryState.replaceRange
      { efiMemoryMap := [⟨EFI_MEMORY_CONVENTIONAL, 0, 4, EFI_MEMORY_ATTRIBUTES⟩] } 0x1000 1
      EFI_MEMORY_LOADER_DATA).1 = true := by decide +kernel
  exact ⟨(hexact.1.mp hdone).2, hdone⟩

end GuideXOS.Isa

namespace GuideXOS.Isa
open Lib Lib.Words Lib.Runs Lib.Segments GuideXOS.Core
open EfiMemoryDescriptor

/-! ## The same map -/

theorem toSegment_injective : Function.Injective toSegment := by
  intro d e h
  have hlabel := congrArg Segment.label h
  have hstart := congrArg Segment.start h
  have hlength := congrArg Segment.length h
  have hpages : d.numberOfPages.toNat = e.numberOfPages.toNat := Nat.eq_of_mul_eq_mul_right (by decide) hlength
  cases d
  cases e
  simp only [toSegment, Prod.mk.injEq] at hlabel hstart
  simp only [EfiMemoryDescriptor.mk.injEq]
  exact ⟨hlabel.1, UInt64.toNat_inj.mp hstart, UInt64.toNat_inj.mp hpages, hlabel.2⟩

/-- **Canonical form.** Sound maps that say the same of every address are equal. -/
theorem MapSound.eq_of_labels {physicalEnd : Nat} {map map' : List EfiMemoryDescriptor}
    (h : MapSound physicalEnd map) (h' : MapSound physicalEnd map')
    (hsame : ∀ x l, Labels (segments map) x l ↔ Labels (segments map') x l) : map = map' :=
  List.map_injective_iff.mpr toSegment_injective (Merged.eq_of_labels h.tiling h.merged h'.tiling h'.merged hsame)

variable {map map' : List EfiMemoryDescriptor} {a : EfiAllocation} {memorySize : UInt64} {m : EfiMemoryState}

/-- A range that was conventional is so again after it has had another type. -/
theorem Retyped.back {lo hi : Nat} {type : UInt32} {map₁ map₂ : List EfiMemoryDescriptor}
    (h : Retyped lo hi type map map₁) (hback : Retyped lo hi EFI_MEMORY_CONVENTIONAL map₁ map₂)
    (hfree : ∀ x l, lo ≤ x ∧ x < hi → Labels (segments map) x l → Conventional l) (x : Nat) (l : UInt32 × UInt64) :
    Labels (segments map₂) x l ↔ Labels (segments map) x l := by
  rw [hback x l]
  by_cases hx : lo ≤ x ∧ x < hi
  · simp only [if_pos hx]
    constructor
    · rintro ⟨l₁, hl₁, rfl⟩
      obtain ⟨l₀, hl₀, heq⟩ := (h x l₁).mp hl₁
      rw [if_pos hx] at heq
      subst heq
      have hconv : l₀.1 = EFI_MEMORY_CONVENTIONAL := hfree x l₀ hx hl₀
      rw [← hconv]
      exact hl₀
    · intro hl
      have hconv : l.1 = EFI_MEMORY_CONVENTIONAL := hfree x l hx hl
      refine ⟨(type, l.2), (h x _).mpr ⟨l, hl, if_pos hx⟩, ?_⟩
      rw [← hconv]
  · simp only [if_neg hx]
    constructor
    · rintro ⟨l₁, hl₁, rfl⟩
      obtain ⟨l₀, hl₀, heq⟩ := (h x l₁).mp hl₁
      rw [if_neg hx] at heq
      exact heq ▸ hl₀
    · exact fun hl => ⟨l, (h x l).mpr ⟨l, hl, if_neg hx⟩, rfl⟩

/-! ## Handing out -/

namespace HandedOut
variable {physicalEnd : Nat} {map map' : List EfiMemoryDescriptor} {a : EfiAllocation}

theorem conventional (h : HandedOut map map' a) (hsound : MapSound physicalEnd map) {x : Nat} {l : UInt32 × UInt64}
    (hx : a.toRange.start ≤ x ∧ x < a.toRange.stop) (hl : Labels (segments map) x l) : Conventional l := by
  obtain ⟨l', hl', hconv⟩ := h.free x hx.1 hx.2
  exact hsound.tiling.label_unique hl' hl ▸ hconv

/-- The range lies in the map. -/
theorem stop_le (h : HandedOut map map' a) (hsound : MapSound physicalEnd map) : a.toRange.stop ≤ physicalEnd := by
  have hpos := h.pos
  obtain ⟨l, hl, _⟩ := h.free (a.toRange.stop - 1) (by unfold Range.stop EfiAllocation.toRange; dsimp only; omega)
    (by unfold Range.stop EfiAllocation.toRange; dsimp only; omega)
  have hlt := ((hsound.tiling.exists_labels_iff _).mp ⟨l, hl⟩).2
  omega

end HandedOut

/-- The address `x` lies in conventional memory. -/
def Free (map : List EfiMemoryDescriptor) (x : Nat) : Prop := ∃ l, Labels (segments map) x l ∧ Conventional l

theorem HandedOut.free_of_range (h : HandedOut map map' a) {x : Nat} (hlo : a.physicalStart.toNat ≤ x)
    (hhi : x < a.physicalStart.toNat + a.numberOfPages.toNat * 4096) :
    Free map x := h.free x hlo hhi

/-- Handing pages out frees none. -/
theorem HandedOut.free_of_free (h : HandedOut map map' a) (htype : a.type ≠ EFI_MEMORY_CONVENTIONAL) {x : Nat}
    (hx : Free map' x) : Free map x := by
  obtain ⟨l, hl, hconv⟩ := hx
  obtain ⟨l₀, hl₀, heq⟩ := (h.retyped x l).mp hl
  split at heq
  · subst heq
    exact absurd hconv htype
  · exact ⟨l, heq ▸ hl₀, hconv⟩

/-- What an allocator selects fits into the map, so the map is replaced. -/
theorem handedOut_of_fitsIn {physicalEnd : Nat} {d : EfiMemoryDescriptor} {base numberOfPages : UInt64}
    (hsound : MapSound physicalEnd map) {selected : Nat} (hget : map[selected]? = some d)
    (hfits : FitsIn d base numberOfPages) (hpos : 0 < numberOfPages.toNat) (type : UInt32) :
    ∃ map', replaceEfiMemoryMapRange map base numberOfPages type = some map' ∧ MapSound physicalEnd map' ∧
      HandedOut map map' ⟨base, numberOfPages, type⟩ := by
  have hmem := List.mem_map_of_mem (f := toSegment) (List.mem_of_getElem? hget)
  obtain ⟨_, hstop, _⟩ := hsound.tiling.mem hmem
  have hin : 0 < numberOfPages.toNat ∧ 0 ≤ base.toNat ∧ base.toNat + numberOfPages.toNat * 4096 ≤ physicalEnd :=
    ⟨hpos, Nat.zero_le _, hfits.le_stop.trans hstop⟩
  have hreplace := hsound.toMapTiles.replace hfits.aligned numberOfPages type
  rw [if_pos hin] at hreplace
  obtain ⟨map', hsome, -⟩ := hreplace
  exact ⟨map', hsome, handedOut_replace hsound hget hfits hsome⟩

/-! ## Taking back -/

namespace EfiMapInvariant
variable {memorySize : UInt64} {m : EfiMemoryState} {a : EfiAllocation}
variable (h : EfiMapInvariant memorySize m)
include h

/-- Live allocations that share an address are the same. -/
theorem live_distinct : m.liveAllocations.Pairwise fun a b => a.physicalStart ≠ b.physicalStart := by
  have hpos : ∀ b ∈ m.liveAllocations, 0 < b.toRange.length :=
    fun b hb => h.reserved.nonempty _ (List.mem_map_of_mem hb)
  refine (List.pairwise_map.mp h.reserved.disjoint).imp_of_mem fun {b c} hb hc hdisj heq => ?_
  have hstart : b.toRange.start = c.toRange.start := congrArg UInt64.toNat heq
  have hb := hpos b hb
  have hc := hpos c hc
  unfold Range.Disjoint Range.stop at hdisj
  omega

/-- A live allocation can be given back: its range lies in the map. -/
theorem exists_released (ha : a ∈ m.liveAllocations) :
    ∃ map, replaceEfiMemoryMapRange m.efiMemoryMap a.physicalStart a.numberOfPages EFI_MEMORY_CONVENTIONAL = some map ∧
      MapSound (physicalEndOf memorySize).toNat map ∧
      Retyped a.toRange.start a.toRange.stop EFI_MEMORY_CONVENTIONAL m.efiMemoryMap map := by
  have hpos := h.reserved.nonempty _ (List.mem_map_of_mem ha)
  have htaken := h.reserved.taken _ (List.mem_map_of_mem ha)
  have hlength : a.toRange.length = a.numberOfPages.toNat * 4096 := rfl
  obtain ⟨l, hl, _⟩ := htaken (a.toRange.stop - 1) (by unfold Range.stop; omega) (by unfold Range.stop; omega)
  have hlt := ((h.sound.tiling.exists_labels_iff _).mp ⟨l, hl⟩).2
  have hreplace := h.sound.toMapTiles.replace (h.aligned a ha) a.numberOfPages EFI_MEMORY_CONVENTIONAL
  have hin : 0 < a.numberOfPages.toNat ∧ 0 ≤ a.physicalStart.toNat ∧
      a.physicalStart.toNat + a.numberOfPages.toNat * 4096 ≤ (physicalEndOf memorySize).toNat := by
    have hstop : a.toRange.stop = a.physicalStart.toNat + a.numberOfPages.toNat * 4096 := rfl
    omega
  rw [if_pos hin] at hreplace
  obtain ⟨map, hsome, htiles, hretyped⟩ := hreplace
  exact ⟨map, hsome, .of_mapTiles htiles, hretyped⟩

/-- **A live pool allocation is found by its address**, and its pages turn conventional. -/
theorem releasePool_of_mem (ha : a ∈ m.efiPoolAllocations) : ∃ map, m.releasePool a.physicalStart = some { m with
        efiMemoryMap := map
        efiPoolAllocations := m.efiPoolAllocations.erase a
        efiMemoryMapKey := m.efiMemoryMapKey + 1 } ∧
      MapSound (physicalEndOf memorySize).toNat map ∧
      Retyped a.toRange.start a.toRange.stop EFI_MEMORY_CONVENTIONAL m.efiMemoryMap map := by
  obtain ⟨map, hsome, hsound, hretyped⟩ := h.exists_released (List.mem_append_right _ ha)
  refine ⟨map, ?_, hsound, hretyped⟩
  have hdistinct : m.efiPoolAllocations.Pairwise fun a b => a.physicalStart ≠ b.physicalStart :=
    (List.pairwise_append.mp h.live_distinct).2.1
  rw [EfiMemoryState.releasePool, find?_of_distinct hdistinct ha]
  dsimp only
  rw [hsome]
  rfl

/-- The same for the pages of an image. -/
theorem releaseImage_of_mem (ha : a ∈ m.efiPageAllocations) :
    ∃ map, m.releaseEfiImagePages a.physicalStart a.numberOfPages = some { m with
        efiMemoryMap := map
        efiPageAllocations := m.efiPageAllocations.erase a
        efiMemoryMapKey := m.efiMemoryMapKey + 1 } ∧
      MapSound (physicalEndOf memorySize).toNat map ∧
      Retyped a.toRange.start a.toRange.stop EFI_MEMORY_CONVENTIONAL m.efiMemoryMap map := by
  obtain ⟨map, hsome, hsound, hretyped⟩ := h.exists_released (List.mem_append_left _ ha)
  refine ⟨map, ?_, hsound, hretyped⟩
  have hdistinct : m.efiPageAllocations.Pairwise fun a b =>
      (a.physicalStart, a.numberOfPages) ≠ (b.physicalStart, b.numberOfPages) :=
    (List.pairwise_append.mp h.live_distinct).1.imp fun hne heq => hne (congrArg Prod.fst heq)
  have hfind := find?_of_distinct hdistinct ha
  simp only [Prod.mk.injEq] at hfind
  rw [EfiMemoryState.releaseEfiImagePages, hfind]
  dsimp only
  rw [hsome]
  rfl

end EfiMapInvariant

/-- A new allocation is none of the live ones. -/
theorem HandedOut.not_mem (h : EfiMapInvariant memorySize m) (hout : HandedOut m.efiMemoryMap map a)
    {b : EfiAllocation} (hb : b ∈ m.liveAllocations) : b.physicalStart ≠ a.physicalStart := by
  intro heq
  have hlength : ∀ c : EfiAllocation, c.toRange.length = c.numberOfPages.toNat * 4096 := fun _ => rfl
  have hpos := h.reserved.nonempty _ (List.mem_map_of_mem hb)
  obtain ⟨l, hl, hnot⟩ := h.reserved.taken _ (List.mem_map_of_mem hb) b.toRange.start le_rfl
    (Nat.lt_add_of_pos_right hpos)
  have hstart : b.toRange.start = a.toRange.start := congrArg UInt64.toNat heq
  have hapos := hout.pos
  refine hnot (hout.conventional h.sound ⟨hstart.ge, ?_⟩ hl)
  rw [hstart]
  exact Nat.lt_add_of_pos_right (by rw [hlength]; omega)

/-- **Pool pages given back at once**: everything but the map key is as it was. -/
theorem releasePool_publishPool (h : EfiMapInvariant memorySize m)
    (hpublished : EfiMapInvariant memorySize (m.publishPool map a)) (hout : HandedOut m.efiMemoryMap map a) :
    (m.publishPool map a).releasePool a.physicalStart =
      some { m with efiMemoryMapKey := m.efiMemoryMapKey + 1 + 1 } := by
  obtain ⟨map', hrelease, hsound, hretyped⟩ :=
    hpublished.releasePool_of_mem (a := a) (List.mem_append_right _ (List.mem_singleton_self a))
  have hmap : map' = m.efiMemoryMap := by
    refine hsound.eq_of_labels h.sound fun x l => ?_
    exact hout.retyped.back hretyped (fun x l hx hl => hout.conventional h.sound hx hl) x l
  have hnew : a ∉ m.efiPoolAllocations := fun ha => hout.not_mem h (List.mem_append_right _ ha) rfl
  have hlist : (m.efiPoolAllocations ++ [a]).erase a = m.efiPoolAllocations := by
    rw [List.erase_append_right _ hnew, List.erase_cons_head, List.append_nil]
  rw [hrelease, hmap]
  exact congrArg some (by simp only [EfiMemoryState.publishPool, hlist])

/-- **Image pages given back at once**, whatever the key has become. -/
theorem releaseImage_publishPages (h : EfiMapInvariant memorySize m)
    (hpublished : EfiMapInvariant memorySize (m.publishPages map a)) (hout : HandedOut m.efiMemoryMap map a)
    (key : UInt64) :
    ({ m.publishPages map a with efiMemoryMapKey := key } : EfiMemoryState).releaseEfiImagePages a.physicalStart
        a.numberOfPages = some { m with efiMemoryMapKey := key + 1 } := by
  have hkeyed : EfiMapInvariant memorySize { m.publishPages map a with efiMemoryMapKey := key } :=
    ⟨hpublished.initialized, hpublished.memorySize_eq, hpublished.sound, hpublished.reserved, hpublished.aligned⟩
  obtain ⟨map', hrelease, hsound, hretyped⟩ :=
    hkeyed.releaseImage_of_mem (a := a) (List.mem_append_right _ (List.mem_singleton_self a))
  have hmap : map' = m.efiMemoryMap := by
    refine hsound.eq_of_labels h.sound fun x l => ?_
    exact hout.retyped.back hretyped (fun x l hx hl => hout.conventional h.sound hx hl) x l
  have hnew : a ∉ m.efiPageAllocations := fun ha => hout.not_mem h (List.mem_append_left _ ha) rfl
  have hlist : (m.efiPageAllocations ++ [a]).erase a = m.efiPageAllocations := by
    rw [List.erase_append_right _ hnew, List.erase_cons_head, List.append_nil]
  rw [hrelease, hmap]
  exact congrArg some (by simp only [EfiMemoryState.publishPages, hlist])

/-! ## The allocators -/

section Services
variable {I M : Type _} [IMemory M] {g : EfiHandoffGlobals} {p p₀ : IA64ISAPlugin I} {memory : M}

/-- A pool allocation: the pages are cleared, handed out, and recorded. -/
structure PoolAllocated (p : IA64ISAPlugin I) (memory : M) (result : UInt64 × IA64ISAPlugin I × M)
    (a : EfiAllocation) (map : List EfiMemoryDescriptor) : Prop where
  handedOut : HandedOut p.memoryMap.efiMemoryMap map a
  invariant : EfiMapInvariant (getTotalSize memory) (p.memoryMap.publishPool map a)
  address : result.1 = a.physicalStart
  plugin : result.2.1 = p.setMemoryMap (p.memoryMap.publishPool map a)
  cleared : IMemory.write memory a.physicalStart (List.replicate (a.numberOfPages * EFI_PAGE_SIZE).toNat 0) =
    .ok result.2.2

/-- **`allocateEfiPool`** refuses, perhaps after it has built the map, or allocates. -/
theorem allocateEfiPool_cases (hready : (ensureEfiMemoryMap g p memory).2 = p₀)
    (h : EfiMapInvariant (getTotalSize memory) p₀.memoryMap) (size : UInt64) (type : UInt32) (alignment : UInt64) :
    allocateEfiPool g p memory size type alignment = (0, p, memory) ∨
      allocateEfiPool g p memory size type alignment = (0, p₀, memory) ∨
      ∃ base map, PoolAllocated p₀ memory (allocateEfiPool g p memory size type alignment)
        ⟨base, (size + EFI_PAGE_SIZE - 1) / EFI_PAGE_SIZE, type⟩ map := by
  obtain ⟨ready, hensure⟩ : ∃ ready, ensureEfiMemoryMap g p memory = (ready, p₀) :=
    ⟨_, Prod.ext rfl hready⟩
  unfold allocateEfiPool
  dsimp only
  have hpos : (if alignment = 0 then 16 else alignment) ≠ 0 := by
    split
    · decide
    · next hne => exact hne
  generalize (if alignment = 0 then 16 else alignment) = requestedAlignment at hpos ⊢
  split
  · exact Or.inl rfl
  next htype =>
  split
  · exact Or.inl rfl
  next halign =>
  rw [hensure]
  dsimp only
  split
  · exact Or.inr (Or.inl rfl)
  next hcount =>
  split
  · exact Or.inr (Or.inl rfl)
  next selected base hselect =>
  split
  · exact Or.inr (Or.inl rfl)
  next memory' hwrite =>
  rw [not_or] at htype
  rw [not_or, not_or] at halign hcount
  obtain ⟨d, hget, hfits⟩ := selectDescriptor_some hselect
  have hfitsIn := fitsIn_pool (h.sound.wellFormed d (List.mem_of_getElem? hget)) hpos halign.2.1 hfits
  obtain ⟨map, hmap, _, hout⟩ := handedOut_of_fitsIn h.sound hget hfitsIn (toNat_pos_of_ne_zero hcount.2.1) type
  rw [hmap]
  refine Or.inr (Or.inr ⟨base, map, hout, ?_, rfl, rfl, hwrite⟩)
  exact h.change (.allocatePool htype.2 hpos halign.2.1 hselect hmap)

/-- **`allocateEfiImagePages`** likewise. -/
theorem allocateEfiImagePages_cases (hready : (ensureEfiMemoryMap g p memory).2 = p₀)
    (h : EfiMapInvariant (getTotalSize memory) p₀.memoryMap) (numberOfPages : UInt64) (type : UInt32) :
    allocateEfiImagePages g p memory numberOfPages type = (0, p) ∨
      allocateEfiImagePages g p memory numberOfPages type = (0, p₀) ∨
      ∃ base map, HandedOut p₀.memoryMap.efiMemoryMap map ⟨base, numberOfPages, type⟩ ∧
        EfiMapInvariant (getTotalSize memory) (p₀.memoryMap.publishPages map ⟨base, numberOfPages, type⟩) ∧
        allocateEfiImagePages g p memory numberOfPages type =
          (base, p₀.setMemoryMap (p₀.memoryMap.publishPages map ⟨base, numberOfPages, type⟩)) := by
  obtain ⟨ready, hensure⟩ : ∃ ready, ensureEfiMemoryMap g p memory = (ready, p₀) :=
    ⟨_, Prod.ext rfl hready⟩
  unfold allocateEfiImagePages
  split
  · exact Or.inl rfl
  next hguard =>
  rw [hensure]
  dsimp only
  split
  · exact Or.inr (Or.inl rfl)
  split
  · exact Or.inr (Or.inl rfl)
  next selected base hselect =>
  rw [not_or, not_or] at hguard
  obtain ⟨d, hget, hfits⟩ := selectDescriptor_some hselect
  have hfitsIn := fitsIn_image (h.sound.wellFormed d (List.mem_of_getElem? hget)) hfits
  obtain ⟨map, hmap, _, hout⟩ := handedOut_of_fitsIn h.sound hget hfitsIn (toNat_pos_of_ne_zero hguard.1) type
  rw [hmap]
  exact Or.inr (Or.inr ⟨base, map, hout, h.change (.allocateImagePages hguard.2.2 hselect hmap), rfl⟩)

end Services

end GuideXOS.Isa
