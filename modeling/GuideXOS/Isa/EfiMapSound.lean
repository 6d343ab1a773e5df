import GuideXOS.Isa.EfiMemoryMap

/-!
# `EfiMapSound` — the memory map as a tiling

A descriptor is read as a segment labelled with its type and attributes (`Represents`). Each operation on
descriptors is then one on segments: a split is a cut, a merge is a push. What the operations keep is a fact
about tilings, and the words never come back.

`MapSound` says that the descriptors tile guest memory and that no two neighbours are alike. Marking a range,
building the map and replacing a range keep it.
-/

namespace GuideXOS.Isa
open Lib Lib.Words Lib.Runs Lib.Segments GuideXOS.Core

/-! ## Page arithmetic -/

@[simp] theorem efi_page_size_toNat : EFI_PAGE_SIZE.toNat = 4096 := rfl

theorem efi_page_mask : EFI_PAGE_SIZE - 1 = lowMask 12 := by decide

theorem pages_toNat {n : UInt64} (h : n.toNat * 4096 < 2 ^ 64) : (n * EFI_PAGE_SIZE).toNat = n.toNat * 4096 := by
  rw [UInt64.toNat_mul, efi_page_size_toNat, Nat.mod_eq_of_lt h]

/-- The guard that every allocator puts before it computes a byte count. -/
theorem pages_lt {n : UInt64} (h : ¬ n > UINT64_MAX / EFI_PAGE_SIZE) : n.toNat * 4096 < 2 ^ 64 := by
  have hle := UInt64.le_iff_toNat_le.mp (not_lt.mp h)
  have hmax : (UINT64_MAX / EFI_PAGE_SIZE).toNat = 2 ^ 52 - 1 := rfl
  omega

variable (x : UInt64) {d : EfiMemoryDescriptor}

/-- Rounding down to a page. -/
theorem and_not_page_toNat : (x &&& ~~~(EFI_PAGE_SIZE - 1)).toNat = x.toNat / 4096 * 4096 := by
  rw [efi_page_mask]
  exact and_not_lowMask_toNat (by decide) x

theorem and_page_toNat : (x &&& (EFI_PAGE_SIZE - 1)).toNat = x.toNat % 4096 := by
  rw [efi_page_mask]
  exact and_lowMask_toNat (by decide) x

theorem dvd_efiAlignDown : 4096 ∣ (efiAlignDown x EFI_PAGE_SIZE).toNat := by
  rw [efiAlignDown, if_neg (by decide), and_not_page_toNat]
  exact Nat.dvd_mul_left _ _

theorem dvd_efiAlignUp : 4096 ∣ (efiAlignUp x EFI_PAGE_SIZE).toNat := by
  rw [efiAlignUp, if_neg (by decide)]
  exact dvd_efiAlignDown _

theorem dvd_min {a b : UInt64} (ha : 4096 ∣ a.toNat) (hb : 4096 ∣ b.toNat) : 4096 ∣ (min a b).toNat := by
  rcases min_choice a b with h | h
  · rwa [h]
  · rwa [h]

theorem dvd_max {a b : UInt64} (ha : 4096 ∣ a.toNat) (hb : 4096 ∣ b.toNat) : 4096 ∣ (max a b).toNat := by
  rcases max_choice a b with h | h
  · rwa [h]
  · rwa [h]

/-! ## Descriptors as segments -/

namespace EfiMemoryDescriptor

/-- A descriptor is page aligned and ends below 2⁶⁴. -/
structure WellFormed (d : EfiMemoryDescriptor) : Prop where
  aligned : 4096 ∣ d.physicalStart.toNat
  bounded : d.physicalStart.toNat + d.numberOfPages.toNat * 4096 < 2 ^ 64

/-- A descriptor as a segment of addresses, labelled with its type and attributes. -/
def toSegment (d : EfiMemoryDescriptor) : Segment (UInt32 × UInt64) :=
  ⟨(d.type, d.attributes), d.physicalStart.toNat, d.numberOfPages.toNat * 4096⟩

variable {d : EfiMemoryDescriptor}

theorem endAddress_toNat (h : d.WellFormed) : d.endAddress.toNat = d.toSegment.stop := by
  have hb := h.bounded
  rw [endAddress, UInt64.toNat_add, pages_toNat (by omega), Nat.mod_eq_of_lt hb]
  rfl

theorem dvd_endAddress (h : d.WellFormed) : 4096 ∣ d.endAddress.toNat := by
  rw [endAddress_toNat h]
  exact (Nat.dvd_add_right h.aligned).mpr (Nat.dvd_mul_left _ _)

end EfiMemoryDescriptor

open EfiMemoryDescriptor

def segments (map : List EfiMemoryDescriptor) : List (Segment (UInt32 × UInt64)) := map.map toSegment

/-- **Representation.** Well-formed descriptors, read as segments. -/
structure Represents (map : List EfiMemoryDescriptor) (ss : List (Segment (UInt32 × UInt64))) : Prop where
  wellFormed : ∀ d ∈ map, d.WellFormed
  segments_eq : segments map = ss

namespace Represents
variable {map map' : List EfiMemoryDescriptor} {ss ss' : List (Segment (UInt32 × UInt64))}

theorem nil : Represents [] [] := ⟨List.forall_mem_nil _, rfl⟩

theorem singleton (h : d.WellFormed) : Represents [d] [d.toSegment] :=
  ⟨List.forall_mem_singleton.mpr h, rfl⟩

theorem append (h : Represents map ss) (h' : Represents map' ss') : Represents (map ++ map') (ss ++ ss') :=
  ⟨List.forall_mem_append.mpr ⟨h.wellFormed, h'.wellFormed⟩, by
    rw [segments, List.map_append, ← segments, ← segments, h.segments_eq, h'.segments_eq]⟩

end Represents

/-- The descriptor of the pages from `lo` to `hi`. -/
theorem represents_of_bounds {lo hi : UInt64} (hle : lo ≤ hi) (hlo : 4096 ∣ lo.toNat) (hhi : 4096 ∣ hi.toNat)
    (type : UInt32) (attributes : UInt64) :
    Represents [⟨type, lo, (hi - lo) / EFI_PAGE_SIZE, attributes⟩]
      [⟨(type, attributes), lo.toNat, hi.toNat - lo.toNat⟩] := by
  have hle' := UInt64.le_iff_toNat_le.mp hle
  have hlen : ((hi - lo) / EFI_PAGE_SIZE).toNat * 4096 = hi.toNat - lo.toNat := by
    rw [UInt64.toNat_div, UInt64.toNat_sub_of_le _ _ hle, efi_page_size_toNat]
    exact Nat.div_mul_cancel (Nat.dvd_sub hhi hlo)
  have hmax := hi.toNat_lt
  refine ⟨List.forall_mem_singleton.mpr ⟨hlo, ?_⟩, ?_⟩
  · show lo.toNat + ((hi - lo) / EFI_PAGE_SIZE).toNat * 4096 < 2 ^ 64
    omega
  · show [toSegment _] = _
    rw [toSegment, hlen]

/-- The piece from `lo` to `hi` that a split leaves, if there is one. -/
theorem represents_piece {lo hi : UInt64} (hlo : 4096 ∣ lo.toNat) (hhi : 4096 ∣ hi.toNat) (type : UInt32)
    (attributes : UInt64) :
    Represents (if lo < hi then [⟨type, lo, (hi - lo) / EFI_PAGE_SIZE, attributes⟩] else [])
      (if lo.toNat < hi.toNat then [⟨(type, attributes), lo.toNat, hi.toNat - lo.toNat⟩] else []) := by
  by_cases h : lo < hi
  · rw [if_pos h, if_pos (UInt64.lt_iff_toNat_lt.mp h)]
    exact represents_of_bounds h.le hlo hhi type attributes
  · rw [if_neg h, if_neg (mt UInt64.lt_iff_toNat_lt.mpr h)]
    exact .nil

/-- **A split is a cut.** -/
theorem represents_split {start stop : UInt64} (type : UInt32) (hd : d.WellFormed) (hstart : 4096 ∣ start.toNat)
    (hstop : 4096 ∣ stop.toNat) (hlt : start < stop) :
    Represents (d.split start stop type)
      (cut start.toNat stop.toNat (fun l => (type, l.2)) d.toSegment) := by
  have hend := endAddress_toNat hd
  have hendDvd := dvd_endAddress hd
  have hself : d.physicalStart ≤ d.endAddress := by
    rw [UInt64.le_iff_toNat_le, hend]
    exact Nat.le_add_right _ _
  have hcond : (d.endAddress ≤ start ∨ d.physicalStart ≥ stop) ↔
      (d.toSegment.stop ≤ start.toNat ∨ stop.toNat ≤ d.toSegment.start) := by
    rw [UInt64.le_iff_toNat_le, hend, ge_iff_le, UInt64.le_iff_toNat_le]
    rfl
  unfold EfiMemoryDescriptor.split cut
  by_cases hout : d.endAddress ≤ start ∨ d.physicalStart ≥ stop
  · rw [if_pos hout, if_pos (hcond.mp hout)]
    exact .singleton hd
  · rw [if_neg hout, if_neg (mt hcond.mpr hout)]
    rw [not_or, not_le, ge_iff_le, not_le] at hout
    have hmid : max d.physicalStart start ≤ min d.endAddress stop :=
      max_le (le_min hself hout.2.le) (le_min hout.1.le hlt.le)
    have h := ((represents_piece hd.aligned hstart d.type d.attributes).append
      (represents_of_bounds hmid (dvd_max hd.aligned hstart) (dvd_min hendDvd hstop) type d.attributes)).append
      (represents_piece (dvd_min hendDvd hstop) hendDvd d.type d.attributes)
    rw [toNat_max, toNat_min, hend] at h
    exact h

variable {map ds acc : List EfiMemoryDescriptor} {ss : List (Segment (UInt32 × UInt64))} {physicalEnd : UInt64}

theorem represents_overlay {start stop : UInt64} (type : UInt32) (h : Represents map ss)
    (hstart : 4096 ∣ start.toNat) (hstop : 4096 ∣ stop.toNat) (hlt : start < stop) :
    Represents (map.flatMap (·.split start stop type))
      (overlay start.toNat stop.toNat (fun l => (type, l.2)) ss) := by
  obtain ⟨hwf, rfl⟩ := h
  induction map with
  | nil => exact .nil
  | cons d map ih =>
      obtain ⟨hd, hrest⟩ := List.forall_mem_cons.mp hwf
      exact (represents_split type hd hstart hstop hlt).append (ih hrest)

/-- **A merge is a push.** -/
theorem represents_merge (h : Represents acc ss) (hd : d.WellFormed) :
    Represents (mergeDescriptor acc d) (push ss d.toSegment) := by
  obtain ⟨hwf, rfl⟩ := h
  rcases List.eq_nil_or_concat' acc with rfl | ⟨init, p, rfl⟩
  · exact .singleton hd
  · obtain ⟨hinit, hp⟩ := List.forall_mem_append.mp hwf
    have hp : p.WellFormed := List.forall_mem_singleton.mp hp
    have hcond : (p.type = d.type ∧ p.attributes = d.attributes ∧ p.endAddress = d.physicalStart) ↔
        (p.toSegment.label = d.toSegment.label ∧ p.toSegment.stop = d.toSegment.start) := by
      have hjoin : p.endAddress = d.physicalStart ↔ p.toSegment.stop = d.toSegment.start := by
        rw [← UInt64.toNat_inj, endAddress_toNat hp]
        rfl
      rw [← and_assoc, hjoin]
      exact and_congr_left' Prod.mk_inj.symm
    have hsegs : segments (init ++ [p]) = segments init ++ [p.toSegment] := List.map_append
    rw [hsegs, push_concat, mergeDescriptor, List.getLast?_concat]
    simp only [List.dropLast_concat]
    by_cases hmerge : p.toSegment.label = d.toSegment.label ∧ p.toSegment.stop = d.toSegment.start
    · rw [if_pos hmerge, if_pos (hcond.mpr hmerge)]
      -- the sum of the page counts does not wrap, since the merged descriptor ends where `d` does
      have hstop : p.physicalStart.toNat + p.numberOfPages.toNat * 4096 = d.physicalStart.toNat := hmerge.2
      have hbound := hd.bounded
      have hsum : (p.numberOfPages + d.numberOfPages).toNat = p.numberOfPages.toNat + d.numberOfPages.toNat := by
        rw [UInt64.toNat_add, Nat.mod_eq_of_lt (by omega)]
      have hmerged : ({ p with numberOfPages := p.numberOfPages + d.numberOfPages } :
          EfiMemoryDescriptor).toSegment =
          { p.toSegment with length := p.toSegment.length + d.toSegment.length } := by
        simp only [toSegment, hsum, Nat.add_mul]
      refine Represents.append ⟨hinit, rfl⟩ (hmerged ▸ Represents.singleton ⟨hp.aligned, ?_⟩)
      show p.physicalStart.toNat + (p.numberOfPages + d.numberOfPages).toNat * 4096 < 2 ^ 64
      omega
    · rw [if_neg hmerge, if_neg (mt hcond.mp hmerge)]
      exact Represents.append (Represents.append ⟨hinit, rfl⟩ (.singleton hp)) (.singleton hd)

theorem represents_foldl {ts : List (Segment (UInt32 × UInt64))} (hacc : Represents acc ss) (hds : Represents ds ts) :
    Represents (ds.foldl mergeDescriptor acc) (ts.foldl push ss) := by
  obtain ⟨hwf, rfl⟩ := hds
  induction ds generalizing acc ss with
  | nil => exact hacc
  | cons d ds ih =>
      obtain ⟨hd, hrest⟩ := List.forall_mem_cons.mp hwf
      exact ih (represents_merge hacc hd) hrest

theorem represents_pages_pos {a b : Nat} (h : Represents ds ss) (ht : Tiling a b ss) :
    ∀ d ∈ ds, d.numberOfPages ≠ 0 := by
  obtain ⟨_, rfl⟩ := h
  intro d hd hzero
  have hpos := (ht.mem (List.mem_map_of_mem hd)).2.2
  simp [toSegment, hzero] at hpos

/-! ## A sound map -/

/-- **A sound map.** Its descriptors are page aligned, tile `[0, physicalEnd)`, and cannot be merged. -/
structure MapSound (physicalEnd : Nat) (map : List EfiMemoryDescriptor) : Prop where
  wellFormed : ∀ d ∈ map, d.WellFormed
  tiling : Tiling 0 physicalEnd (segments map)
  merged : Merged (segments map)

/-- The addresses of `[lo, hi)` have got a new type, and everything else is as it was. -/
def Retyped (lo hi : Nat) (type : UInt32) (map map' : List EfiMemoryDescriptor) : Prop :=
  ∀ x l, Labels (segments map') x l ↔
    ∃ l', Labels (segments map) x l' ∧ (if lo ≤ x ∧ x < hi then (type, l'.2) else l') = l

/-- The same for a map that tiles any interval. -/
structure MapTiles (lo hi : Nat) (map : List EfiMemoryDescriptor) : Prop where
  wellFormed : ∀ d ∈ map, d.WellFormed
  tiling : Tiling lo hi (segments map)
  merged : Merged (segments map)

namespace MapTiles
variable {lo hi : Nat} {map : List EfiMemoryDescriptor}

/-- Merging well-formed descriptors that tile an interval leaves no two alike and keeps the types. -/
theorem of_tiling (h : Represents map ss) (ht : Tiling lo hi ss) :
    MapTiles lo hi (map.foldl mergeDescriptor []) ∧
      ∀ x l, Labels (segments (map.foldl mergeDescriptor [])) x l ↔ Labels ss x l := by
  obtain ⟨hwf, hsegs⟩ : Represents (map.foldl mergeDescriptor []) (coalesce ss) := represents_foldl .nil h
  exact ⟨⟨hwf, hsegs ▸ tiling_coalesce ht, hsegs ▸ merged_coalesce ht⟩,
    fun x l => hsegs ▸ labels_coalesce ht⟩

/-- **Both relabelling loops** keep the tiling, and change the types of the range. -/
theorem retype (h : MapTiles lo hi map) {start stop : UInt64} (type : UInt32)
    (hstart : 4096 ∣ start.toNat) (hstop : 4096 ∣ stop.toNat) (hlt : start < stop) :
    MapTiles lo hi ((map.flatMap (·.split start stop type)).foldl mergeDescriptor []) ∧
      Retyped start.toNat stop.toNat type map
        ((map.flatMap (·.split start stop type)).foldl mergeDescriptor []) := by
  have hlt' := UInt64.lt_iff_toNat_lt.mp hlt
  have hrep := represents_overlay type ⟨h.wellFormed, rfl⟩ hstart hstop hlt
  obtain ⟨hsound, hlabels⟩ := of_tiling hrep (h.tiling.overlay hlt' _)
  exact ⟨hsound, fun x l => (hlabels x l).trans labels_overlay⟩

end MapTiles

namespace MapSound
variable {physicalEnd : Nat} {map map' : List EfiMemoryDescriptor}

theorem toMapTiles (h : MapSound physicalEnd map) : MapTiles 0 physicalEnd map := ⟨h.wellFormed, h.tiling, h.merged⟩

theorem of_mapTiles (h : MapTiles 0 physicalEnd map) : MapSound physicalEnd map := ⟨h.wellFormed, h.tiling, h.merged⟩

/-- Merging well-formed descriptors that tile memory gives a sound map with the same types. -/
theorem of_tiling (h : Represents map ss) (ht : Tiling 0 physicalEnd ss) :
    MapSound physicalEnd (map.foldl mergeDescriptor []) ∧
      ∀ x l, Labels (segments (map.foldl mergeDescriptor [])) x l ↔ Labels ss x l :=
  (MapTiles.of_tiling h ht).imp_left of_mapTiles

theorem retype (h : MapSound physicalEnd map) {start stop : UInt64} (type : UInt32)
    (hstart : 4096 ∣ start.toNat) (hstop : 4096 ∣ stop.toNat) (hlt : start < stop) :
    MapSound physicalEnd ((map.flatMap (·.split start stop type)).foldl mergeDescriptor []) ∧
      Retyped start.toNat stop.toNat type map
        ((map.flatMap (·.split start stop type)).foldl mergeDescriptor []) :=
  (h.toMapTiles.retype type hstart hstop hlt).imp_left of_mapTiles

end MapSound

/-- On non-empty descriptors `appendDescriptor` is the merge. -/
theorem foldl_appendDescriptor (hds : ∀ d ∈ ds, d.numberOfPages ≠ 0) (acc : List EfiMemoryDescriptor) :
    ds.foldl appendDescriptor acc = ds.foldl mergeDescriptor acc := by
  induction ds generalizing acc with
  | nil => rfl
  | cons d ds ih =>
      obtain ⟨hd, hrest⟩ := List.forall_mem_cons.mp hds
      rw [List.foldl_cons, appendDescriptor, if_neg hd]
      exact ih hrest _

/-! ## Building the map -/

/-- An empty range gets no new type. -/
theorem Retyped.of_le {lo hi : Nat} (h : hi ≤ lo) (type : UInt32) (map : List EfiMemoryDescriptor) :
    Retyped lo hi type map map := by
  intro x l
  have hout : ¬(lo ≤ x ∧ x < hi) := fun hx => absurd (lt_of_le_of_lt hx.1 hx.2) (not_lt.mpr h)
  simp only [if_neg hout, exists_eq_right]

theorem mapSound_markRange (hend : 4096 ∣ physicalEnd.toNat) (requestedStart requestedEnd : UInt64) (type : UInt32)
    (h : MapSound physicalEnd.toNat map) :
    MapSound physicalEnd.toNat (markRange physicalEnd requestedStart requestedEnd type map) ∧
      Retyped (min (efiAlignDown requestedStart EFI_PAGE_SIZE) physicalEnd).toNat
        (min (efiAlignUp requestedEnd EFI_PAGE_SIZE) physicalEnd).toNat type map
        (markRange physicalEnd requestedStart requestedEnd type map) := by
  unfold markRange
  have hstart := dvd_min (dvd_efiAlignDown requestedStart) hend
  have hstop := dvd_min (dvd_efiAlignUp requestedEnd) hend
  dsimp only
  split
  · next hle => exact ⟨h, .of_le (UInt64.le_iff_toNat_le.mp hle) type map⟩
  · next hlt =>
      have hlt := not_le.mp hlt
      have hrep := represents_overlay type ⟨h.wellFormed, rfl⟩ hstart hstop hlt
      have htile := h.tiling.overlay (UInt64.lt_iff_toNat_lt.mp hlt) (fun l => (type, l.2))
      rw [foldl_appendDescriptor (represents_pages_pos hrep htile)]
      exact h.retype type hstart hstop hlt

/-- One conventional descriptor over all of memory. -/
theorem mapSound_conventional (hend : 4096 ∣ physicalEnd.toNat) :
    MapSound physicalEnd.toNat (appendDescriptor []
        ⟨EFI_MEMORY_CONVENTIONAL, 0, physicalEnd / EFI_PAGE_SIZE, EFI_MEMORY_ATTRIBUTES⟩) ∧
      ∀ x l, Labels (segments (appendDescriptor []
          ⟨EFI_MEMORY_CONVENTIONAL, 0, physicalEnd / EFI_PAGE_SIZE, EFI_MEMORY_ATTRIBUTES⟩)) x l ↔
        x < physicalEnd.toNat ∧ (EFI_MEMORY_CONVENTIONAL, EFI_MEMORY_ATTRIBUTES) = l := by
  by_cases hzero : physicalEnd = 0
  · subst hzero
    refine ⟨⟨List.forall_mem_nil _, rfl, List.IsChain.nil⟩, fun x l => ⟨?_, fun h => absurd h.1 (Nat.not_lt_zero x)⟩⟩
    rintro ⟨s, hs, _⟩
    exact absurd hs List.not_mem_nil
  · have hpos : 0 < physicalEnd.toNat := Nat.pos_of_ne_zero fun h => hzero (UInt64.toNat_inj.mp h)
    have hle : (0 : UInt64) ≤ physicalEnd := UInt64.le_iff_toNat_le.mpr (Nat.zero_le _)
    have hrep := represents_of_bounds hle
      (Nat.dvd_zero 4096) hend EFI_MEMORY_CONVENTIONAL EFI_MEMORY_ATTRIBUTES
    have htile : Tiling 0 physicalEnd.toNat [⟨(EFI_MEMORY_CONVENTIONAL, EFI_MEMORY_ATTRIBUTES),
        (0 : UInt64).toNat, physicalEnd.toNat - (0 : UInt64).toNat⟩] :=
      ⟨rfl, hpos, Nat.zero_add _⟩
    have hsound := MapSound.of_tiling hrep htile
    rw [← foldl_appendDescriptor (represents_pages_pos hrep htile), UInt64.sub_zero] at hsound
    refine ⟨hsound.1, fun x l => (hsound.2 x l).trans (labels_singleton.trans ?_)⟩
    refine and_congr_left' ⟨fun hx => ?_, fun hx => ⟨Nat.zero_le x, ?_⟩⟩
    · exact lt_of_lt_of_eq hx.2 (Nat.zero_add _)
    · exact lt_of_lt_of_eq hx (Nat.zero_add _).symm

/-- The pages of a mark, up to the end of memory. -/
def EfiMark.Covers (physicalEnd : UInt64) (mark : EfiMark) (x : Nat) : Prop :=
  (min (efiAlignDown mark.start EFI_PAGE_SIZE) physicalEnd).toNat ≤ x ∧
    x < (min (efiAlignUp mark.stop EFI_PAGE_SIZE) physicalEnd).toNat

instance (physicalEnd : UInt64) (mark : EfiMark) (x : Nat) : Decidable (mark.Covers physicalEnd x) :=
  inferInstanceAs (Decidable (_ ∧ _))

/-- The type of the last mark that covers an address, where there is one. -/
def markedType (physicalEnd : UInt64) (x : Nat) (type : UInt32) (marks : List EfiMark) : UInt32 :=
  marks.foldl (fun type mark => if mark.Covers physicalEnd x then mark.type else type) type

theorem mapSound_firmwareMarks (hend : 4096 ∣ physicalEnd.toNat) (marks : List EfiMark)
    (h : MapSound physicalEnd.toNat map) :
    MapSound physicalEnd.toNat (marks.foldl
        (fun map mark => markRange physicalEnd mark.start mark.stop mark.type map) map) ∧
      ∀ x l, Labels (segments (marks.foldl
          (fun map mark => markRange physicalEnd mark.start mark.stop mark.type map) map)) x l ↔
        ∃ l', Labels (segments map) x l' ∧ (markedType physicalEnd x l'.1 marks, l'.2) = l := by
  induction marks generalizing map with
  | nil => exact ⟨h, fun x l => by simp only [markedType, List.foldl_nil, Prod.mk.eta, exists_eq_right]⟩
  | cons mark marks ih =>
      obtain ⟨hmarked, hretyped⟩ := mapSound_markRange hend mark.start mark.stop mark.type h
      obtain ⟨hsound, hlabels⟩ := ih hmarked
      refine ⟨hsound, fun x l => (hlabels x l).trans ?_⟩
      -- the first mark retypes what it covers, the rest retype the result
      have hfirst : ∀ l', Labels (segments (markRange physicalEnd mark.start mark.stop mark.type map)) x l' ↔
          ∃ l₀, Labels (segments map) x l₀ ∧ (if mark.Covers physicalEnd x then (mark.type, l₀.2) else l₀) = l' :=
        hretyped x
      have hcons : ∀ l₀ : UInt32 × UInt64, markedType physicalEnd x l₀.1 (mark :: marks) =
          markedType physicalEnd x (if mark.Covers physicalEnd x then mark.type else l₀.1) marks := fun _ => rfl
      simp only [hfirst, hcons]
      constructor
      · rintro ⟨_, ⟨l₀, hl₀, rfl⟩, rfl⟩
        refine ⟨l₀, hl₀, ?_⟩
        split <;> rfl
      · rintro ⟨l₀, hl₀, rfl⟩
        refine ⟨_, ⟨l₀, hl₀, rfl⟩, ?_⟩
        split <;> rfl

/-! ## Replacing a range -/

/-- What a range shares with an interval, it shares with its two parts. -/
theorem overlap_split {lo mid hi start stop : Nat} (hlo : lo ≤ mid) (hhi : mid ≤ hi) (hlt : start < stop) :
    min hi stop - max lo start = (min mid stop - max lo start) + (min hi stop - max mid start) := by
  omega

/-- **The page count** of `replaceEfiMemoryMapRange`: what the range and the map have in common. -/
theorem toNat_foldl_coveredPages {lo hi : Nat} {start stop : UInt64} (hwf : ∀ d ∈ map, d.WellFormed)
    (ht : Tiling lo hi (segments map)) (hstart : 4096 ∣ start.toNat) (hstop : 4096 ∣ stop.toNat)
    (hlt : start < stop) (pages : UInt64)
    (hpages : pages.toNat * 4096 + (min hi stop.toNat - max lo start.toNat) < 2 ^ 64) :
    (map.foldl (fun pages d => pages + coveredPages start stop d) pages).toNat * 4096 =
      pages.toNat * 4096 + (min hi stop.toNat - max lo start.toNat) := by
  have hlt' := UInt64.lt_iff_toNat_lt.mp hlt
  induction map generalizing lo pages with
  | nil =>
      obtain rfl : lo = hi := ht
      rw [List.foldl_nil]
      omega
  | cons d map ih =>
      obtain ⟨hd, hrest⟩ := List.forall_mem_cons.mp hwf
      obtain ⟨rfl, hpos, htail⟩ := ht
      have hend := endAddress_toNat hd
      have hdvd := dvd_endAddress hd
      have hle := htail.le
      have hspan : d.toSegment.start ≤ d.toSegment.stop := Nat.le_add_right _ _
      have hstartOf : d.toSegment.start = d.physicalStart.toNat := rfl
      -- the pages of one descriptor
      have hcovered : (coveredPages start stop d).toNat * 4096 =
          min d.toSegment.stop stop.toNat - max d.toSegment.start start.toNat := by
        unfold coveredPages
        by_cases hout : d.endAddress ≤ start ∨ d.physicalStart ≥ stop
        · rw [if_pos hout]
          rw [UInt64.le_iff_toNat_le, hend, ge_iff_le, UInt64.le_iff_toNat_le] at hout
          rw [UInt64.toNat_zero, Nat.zero_mul]
          omega
        · rw [if_neg hout]
          rw [not_or, not_le, ge_iff_le, not_le] at hout
          have hself : d.physicalStart ≤ d.endAddress := by
            rw [UInt64.le_iff_toNat_le, hend]
            exact hspan
          have hmid : max d.physicalStart start ≤ min d.endAddress stop :=
            max_le (le_min hself hout.2.le) (le_min hout.1.le hlt.le)
          rw [UInt64.toNat_div, UInt64.toNat_sub_of_le _ _ hmid, efi_page_size_toNat,
            Nat.div_mul_cancel (Nat.dvd_sub (dvd_min hdvd hstop) (dvd_max hd.aligned hstart)), toNat_min, toNat_max,
            hend, hstartOf]
      rw [overlap_split hspan hle hlt', ← hcovered, ← Nat.add_assoc, ← Nat.add_mul] at hpages ⊢
      have hsum : (pages + coveredPages start stop d).toNat =
          pages.toNat + (coveredPages start stop d).toNat := by
        rw [UInt64.toNat_add, Nat.mod_eq_of_lt]
        exact lt_of_le_of_lt (Nat.le_mul_of_pos_right _ (by decide)) (lt_of_le_of_lt (Nat.le_add_right _ _) hpages)
      rw [List.foldl_cons, ih hrest htail (pages + coveredPages start stop d) (hsum ▸ hpages), hsum]

/-- A map ends below 2⁶⁴. -/
theorem MapTiles.lt_of_lt {lo hi : Nat} (h : MapTiles lo hi map) (hlt : lo < hi) : hi < 2 ^ 64 := by
  rcases List.eq_nil_or_concat' map with rfl | ⟨init, d, rfl⟩
  · exact absurd h.tiling (Nat.ne_of_lt hlt)
  · have hsegs : segments (init ++ [d]) = segments init ++ [d.toSegment] := List.map_append
    have htile := h.tiling
    rw [hsegs] at htile
    obtain ⟨_, _, _, _, hstop⟩ := tiling_append.mp htile
    have hstop : d.toSegment.stop = hi := hstop
    rw [← hstop]
    exact (h.wellFormed d (List.mem_append_right _ (List.mem_singleton_self d))).bounded

/-- **`replaceEfiMemoryMapRange`** retypes a range of the map, and refuses every other range. -/
theorem MapTiles.replace {lo hi : Nat} (h : MapTiles lo hi map) {physicalStart : UInt64}
    (hdvd : 4096 ∣ physicalStart.toNat) (numberOfPages : UInt64) (type : UInt32) :
    if 0 < numberOfPages.toNat ∧ lo ≤ physicalStart.toNat ∧
        physicalStart.toNat + numberOfPages.toNat * 4096 ≤ hi then
      ∃ map', replaceEfiMemoryMapRange map physicalStart numberOfPages type = some map' ∧ MapTiles lo hi map' ∧
        Retyped physicalStart.toNat (physicalStart.toNat + numberOfPages.toNat * 4096) type map map'
    else replaceEfiMemoryMapRange map physicalStart numberOfPages type = none := by
  have hmax : UINT64_MAX.toNat = 2 ^ 64 - 1 := rfl
  unfold replaceEfiMemoryMapRange
  by_cases hguard : numberOfPages = 0 ∨ numberOfPages > UINT64_MAX / EFI_PAGE_SIZE ∨
      physicalStart > UINT64_MAX - numberOfPages * EFI_PAGE_SIZE
  · rw [if_pos hguard, if_neg]
    rintro ⟨hpos, hlo, hhi⟩
    have hbound := h.lt_of_lt (by omega)
    rcases hguard with hzero | hcount | hstart
    · rw [hzero] at hpos
      exact absurd hpos (Nat.lt_irrefl _)
    · have hdiv : (UINT64_MAX / EFI_PAGE_SIZE).toNat = 2 ^ 52 - 1 := rfl
      have hcount := UInt64.lt_iff_toNat_lt.mp hcount
      omega
    · have hstart := UInt64.lt_iff_toNat_lt.mp hstart
      have hbytes := pages_toNat (n := numberOfPages) (by omega)
      rw [UInt64.toNat_sub_of_le _ _ (UInt64.le_iff_toNat_le.mpr (by omega)), hbytes] at hstart
      omega
  · rw [if_neg hguard]
    rw [not_or, not_or] at hguard
    obtain ⟨hne, hcount, hstart⟩ := hguard
    have hpos : 0 < numberOfPages.toNat := Nat.pos_of_ne_zero fun h => hne (UInt64.toNat_inj.mp h)
    have hlt := pages_lt hcount
    have hbytes := pages_toNat hlt
    have hle := UInt64.le_iff_toNat_le.mp (not_lt.mp hstart)
    rw [UInt64.toNat_sub_of_le _ _ (UInt64.le_iff_toNat_le.mpr (by omega)), hbytes, hmax] at hle
    have hstop : (physicalStart + numberOfPages * EFI_PAGE_SIZE).toNat =
        physicalStart.toNat + numberOfPages.toNat * 4096 := by
      rw [UInt64.toNat_add, hbytes, Nat.mod_eq_of_lt (by omega)]
    have hstopDvd : 4096 ∣ (physicalStart + numberOfPages * EFI_PAGE_SIZE).toNat := by
      rw [hstop]
      exact (Nat.dvd_add_right hdvd).mpr (Nat.dvd_mul_left _ _)
    have hrange : physicalStart < physicalStart + numberOfPages * EFI_PAGE_SIZE := by
      rw [UInt64.lt_iff_toNat_lt, hstop]
      omega
    have hroom : (0 : UInt64).toNat * 4096 + (min hi (physicalStart + numberOfPages * EFI_PAGE_SIZE).toNat -
        max lo physicalStart.toNat) < 2 ^ 64 := by
      rw [UInt64.toNat_zero, Nat.zero_mul, Nat.zero_add]
      exact lt_of_le_of_lt ((Nat.sub_le _ _).trans (Nat.min_le_right _ _)) (UInt64.toNat_lt _)
    have hsum := toNat_foldl_coveredPages h.wellFormed h.tiling hdvd hstopDvd hrange 0 hroom
    rw [hstop, UInt64.toNat_zero] at hsum
    -- the pages counted are all of the range exactly when the map contains it
    have hall : map.foldl (fun pages d => pages + coveredPages physicalStart
        (physicalStart + numberOfPages * EFI_PAGE_SIZE) d) 0 = numberOfPages ↔
          0 < numberOfPages.toNat ∧ lo ≤ physicalStart.toNat ∧
            physicalStart.toNat + numberOfPages.toNat * 4096 ≤ hi := by
      rw [← UInt64.toNat_inj]
      omega
    dsimp only
    by_cases hin : 0 < numberOfPages.toNat ∧ lo ≤ physicalStart.toNat ∧
        physicalStart.toNat + numberOfPages.toNat * 4096 ≤ hi
    · rw [if_pos hin, if_neg (not_not.mpr (hall.mpr hin))]
      have hretype := h.retype type hdvd hstopDvd hrange
      rw [hstop] at hretype
      exact ⟨_, rfl, hretype.1, hretype.2⟩
    · rw [if_neg hin, if_pos (mt hall.mp hin)]

/-- **`replaceEfiMemoryMapRange`**, where it does not refuse, retypes the range. -/
theorem mapSound_replace {physicalEnd : Nat} {map' : List EfiMemoryDescriptor}
    {physicalStart numberOfPages : UInt64} {type : UInt32} (h : MapSound physicalEnd map)
    (hdvd : 4096 ∣ physicalStart.toNat)
    (heq : replaceEfiMemoryMapRange map physicalStart numberOfPages type = some map') :
    0 < numberOfPages.toNat ∧ MapSound physicalEnd map' ∧
      Retyped physicalStart.toNat (physicalStart.toNat + numberOfPages.toNat * 4096) type map map' := by
  have hreplace := h.toMapTiles.replace hdvd numberOfPages type
  split at hreplace
  case isTrue hin =>
    obtain ⟨replaced, hsome, htiles, hretyped⟩ := hreplace
    obtain rfl := Option.some.inj (hsome.symm.trans heq)
    exact ⟨hin.1, .of_mapTiles htiles, hretyped⟩
  case isFalse => exact absurd (hreplace.symm.trans heq) (by intro hno; cases hno)

end GuideXOS.Isa
