import GuideXOS.Isa.FreedPages

/-!
# `EfiPlacement` — where `AllocatePages` places an allocation

`AllocatePages` walks the map from its end and takes the first conventional descriptor that fits, at the highest place
in it that the request allows. Descriptors are sorted, so this is the highest place that any descriptor holds; and they
are maximally merged, so a conventional range with the same attributes throughout lies in one of them
(`placeable_iff`). Hence the choice is the highest of all such ranges (`allocatePages_placement`).
-/

namespace GuideXOS.Isa
open Lib Lib.Words Lib.Runs Lib.Segments GuideXOS.Core
open EfiMemoryDescriptor

/-! ## The descriptor that is selected -/

variable {fits : EfiMemoryDescriptor → Option UInt64} {map : List EfiMemoryDescriptor}

/-- **`selectDescriptor`** finds the last descriptor that fits. -/
theorem selectDescriptor_last {selected : Nat} {base : UInt64}
    (h : selectDescriptor fits map = some (selected, base)) :
    ∃ pre d post, map = pre ++ d :: post ∧ fits d = some base ∧ ∀ e ∈ post, fits e = none := by
  obtain ⟨later, ⟨d, i⟩, earlier, hmap, hfits, hlater⟩ := List.findSome?_eq_some_iff.mp h
  obtain ⟨base', hbase, heq⟩ := Option.map_eq_some_iff.mp hfits
  cases heq
  have hsplit := congrArg List.reverse hmap
  rw [List.reverse_reverse, List.reverse_append, List.reverse_cons] at hsplit
  have hfst := congrArg (List.map Prod.fst) hsplit
  rw [List.zipIdx_map_fst, List.map_append, List.map_append, List.append_assoc] at hfst
  refine ⟨_, d, _, hfst, hbase, fun e he => ?_⟩
  obtain ⟨⟨e', j⟩, hmem, rfl⟩ := List.mem_map.mp he
  exact Option.map_eq_none_iff.mp (hlater _ (List.mem_reverse.mp hmem))

theorem selectDescriptor_none (h : selectDescriptor fits map = none) : ∀ d ∈ map, fits d = none := by
  intro d hd
  obtain ⟨i, hi⟩ := List.mem_iff_getElem?.mp hd
  have hmem : (d, i) ∈ map.zipIdx.reverse := List.mem_reverse.mpr (List.mem_zipIdx_iff_getElem?.mpr hi)
  exact Option.map_eq_none_iff.mp (List.findSome?_eq_none_iff.mp h _ hmem)

/-! ## The place in one descriptor -/

/-- What a request wants of its place: the address itself, or an end at or below the limit. -/
def Allows (allocationType : UInt32) (inputMemory numberOfPages base : UInt64) : Prop :=
  (allocationType = EFI_ALLOCATE_ADDRESS → base = inputMemory) ∧
    (allocationType = EFI_ALLOCATE_MAX_ADDRESS →
      base.toNat + numberOfPages.toNat * 4096 ≤ inputMemory.toNat + 1)

/-- The pages from `base` lie in this descriptor, and the request allows them. -/
def Suits (allocationType : UInt32) (inputMemory numberOfPages : UInt64) (d : EfiMemoryDescriptor) (base : UInt64) :
    Prop :=
  FitsIn d base numberOfPages ∧ Allows allocationType inputMemory numberOfPages base

variable {d : EfiMemoryDescriptor} {numberOfPages : UInt64} {allocationType : UInt32}

/-- The last byte that an allocation may use. -/
theorem toNat_allowedEnd (hd : d.WellFormed) (hpos : 0 < d.numberOfPages.toNat) (allocationType : UInt32)
    (inputMemory : UInt64) :
    (if allocationType = EFI_ALLOCATE_MAX_ADDRESS then min (d.endAddress - 1) inputMemory
        else d.endAddress - 1).toNat =
      if allocationType = EFI_ALLOCATE_MAX_ADDRESS then min (d.toSegment.stop - 1) inputMemory.toNat
      else d.toSegment.stop - 1 := by
  have hend := endAddress_toNat hd
  have hstop : d.toSegment.stop = d.physicalStart.toNat + d.numberOfPages.toNat * 4096 := rfl
  have hone : (1 : UInt64) ≤ d.endAddress := UInt64.le_iff_toNat_le.mpr (by
    rw [hend, UInt64.toNat_one]
    omega)
  have hlast : (d.endAddress - 1).toNat = d.toSegment.stop - 1 := by
    rw [UInt64.toNat_sub_of_le _ _ hone, hend, UInt64.toNat_one]
  split
  · rw [toNat_min, hlast]
  · exact hlast

/-- **The search from above.** The highest page from which the allocation ends before the allowed end. -/
theorem highestPlace {start rangeEnd allowedEnd bytes : UInt64} {lo hi n : Nat} (haligned : 4096 ∣ start.toNat)
    (hlo : start.toNat = lo) (hbytes : bytes.toNat = n * 4096) (hn : 0 < n) (hend : rangeEnd.toNat = hi)
    (hlt : lo < hi) (hle : allowedEnd.toNat ≤ hi - 1) :
    match (if allowedEnd < start ∨ allowedEnd - start + 1 < bytes then none
      else if (allowedEnd - bytes + 1) &&& ~~~(EFI_PAGE_SIZE - 1) < start ∨
          (allowedEnd - bytes + 1) &&& ~~~(EFI_PAGE_SIZE - 1) > rangeEnd ∨
          bytes > rangeEnd - ((allowedEnd - bytes + 1) &&& ~~~(EFI_PAGE_SIZE - 1)) then none
      else some ((allowedEnd - bytes + 1) &&& ~~~(EFI_PAGE_SIZE - 1))) with
    | none => ∀ base : UInt64, ¬(4096 ∣ base.toNat ∧ lo ≤ base.toNat ∧ base.toNat + n * 4096 ≤ allowedEnd.toNat + 1)
    | some base => (4096 ∣ base.toNat ∧ lo ≤ base.toNat ∧ base.toNat + n * 4096 ≤ allowedEnd.toNat + 1) ∧
        ∀ base' : UInt64, 4096 ∣ base'.toNat ∧ lo ≤ base'.toNat ∧ base'.toNat + n * 4096 ≤ allowedEnd.toNat + 1 →
          base'.toNat ≤ base.toNat := by
  have hhi := rangeEnd.toNat_lt
  have hbound := bytes.toNat_lt
  by_cases hroom : lo ≤ allowedEnd.toNat ∧ n * 4096 ≤ allowedEnd.toNat - lo + 1
  case neg =>
    have hnone : allowedEnd < start ∨ allowedEnd - start + 1 < bytes := by
      by_cases hlow : allowedEnd < start
      · exact Or.inl hlow
      · have hge := UInt64.le_iff_toNat_le.mp (not_lt.mp hlow)
        refine Or.inr (UInt64.lt_iff_toNat_lt.mpr ?_)
        rw [UInt64.toNat_add, UInt64.toNat_sub_of_le _ _ (not_lt.mp hlow), UInt64.toNat_one, hlo, hbytes,
          Nat.mod_eq_of_lt (by omega)]
        omega
    rw [if_pos hnone]
    rintro base ⟨-, hbase, hstop⟩
    omega
  obtain ⟨hge, hfits⟩ := hroom
  have hge' : start ≤ allowedEnd := UInt64.le_iff_toNat_le.mpr (hlo ▸ hge)
  have hsome : ¬(allowedEnd < start ∨ allowedEnd - start + 1 < bytes) := by
    rw [not_or, not_lt, not_lt]
    refine ⟨hge', UInt64.le_iff_toNat_le.mpr ?_⟩
    rw [UInt64.toNat_add, UInt64.toNat_sub_of_le _ _ hge', UInt64.toNat_one, hlo, hbytes, Nat.mod_eq_of_lt (by omega)]
    exact hfits
  rw [if_neg hsome]
  -- one past the last place before rounding
  have henough : n * 4096 ≤ allowedEnd.toNat + 1 := by omega
  have hnext : (allowedEnd + 1).toNat = allowedEnd.toNat + 1 := by
    rw [UInt64.toNat_add, UInt64.toNat_one, Nat.mod_eq_of_lt (by omega)]
  have hlast : (allowedEnd - bytes + 1).toNat = allowedEnd.toNat + 1 - n * 4096 := by
    have hswap : allowedEnd - bytes + 1 = allowedEnd + 1 - bytes := by grind
    rw [hswap, UInt64.toNat_sub_of_le, hnext, hbytes]
    rw [UInt64.le_iff_toNat_le, hnext, hbytes]
    exact henough
  have hbase : ((allowedEnd - bytes + 1) &&& ~~~(EFI_PAGE_SIZE - 1)).toNat =
      (allowedEnd.toNat + 1 - n * 4096) / 4096 * 4096 := by rw [and_not_page_toNat, hlast]
  generalize (allowedEnd - bytes + 1) &&& ~~~(EFI_PAGE_SIZE - 1) = base at hbase ⊢
  obtain ⟨k, hk⟩ := haligned
  have hrounded : base.toNat ≤ allowedEnd.toNat + 1 - n * 4096 := by
    rw [hbase]
    exact Nat.div_mul_le_self _ 4096
  have hstart : lo ≤ base.toNat := by omega
  have hroomy : base ≤ rangeEnd := UInt64.le_iff_toNat_le.mpr (by omega)
  have hkept : ¬(base < start ∨ base > rangeEnd ∨ bytes > rangeEnd - base) := by
    rw [not_or, not_or, not_lt, gt_iff_lt, not_lt, gt_iff_lt, not_lt]
    refine ⟨UInt64.le_iff_toNat_le.mpr (hlo ▸ hstart), hroomy, UInt64.le_iff_toNat_le.mpr ?_⟩
    rw [UInt64.toNat_sub_of_le _ _ hroomy, hbytes, hend]
    omega
  rw [if_neg hkept]
  refine ⟨⟨hbase ▸ Nat.dvd_mul_left _ _, hstart, by omega⟩, ?_⟩
  rintro base' ⟨⟨k', hk'⟩, -, hstop'⟩
  omega

/-- The pages asked for by address lie within the descriptor. -/
theorem address_within_iff (hd : d.WellFormed) (inputMemory : UInt64) (hcount : numberOfPages.toNat * 4096 < 2 ^ 64) :
    (inputMemory ≥ d.physicalStart ∧ inputMemory ≤ d.endAddress ∧
        numberOfPages * EFI_PAGE_SIZE ≤ d.endAddress - inputMemory) ↔
      d.toSegment.start ≤ inputMemory.toNat ∧
        inputMemory.toNat + numberOfPages.toNat * 4096 ≤ d.toSegment.stop := by
  have hend := endAddress_toNat hd
  have hbytes := pages_toNat hcount
  have hstart : d.toSegment.start = d.physicalStart.toNat := rfl
  rw [ge_iff_le, UInt64.le_iff_toNat_le, ← hstart]
  refine and_congr_right fun _ => ?_
  constructor
  · rintro ⟨hle, hroom⟩
    rw [UInt64.le_iff_toNat_le, UInt64.toNat_sub_of_le _ _ hle, hbytes, hend] at hroom
    rw [UInt64.le_iff_toNat_le, hend] at hle
    omega
  · intro hroom
    have hle : inputMemory ≤ d.endAddress := by
      rw [UInt64.le_iff_toNat_le, hend]
      omega
    refine ⟨hle, ?_⟩
    rw [UInt64.le_iff_toNat_le, UInt64.toNat_sub_of_le _ _ hle, hbytes, hend]
    omega

/-- The end that a place may not cross where the address is left open: that of the descriptor, or the highest address
    the caller accepts. -/
theorem suits_iff_below (hpos : 0 < d.numberOfPages.toNat) (htype : d.type = EFI_MEMORY_CONVENTIONAL)
    (hpolicy : allocationType ≠ EFI_ALLOCATE_ADDRESS) {inputMemory : UInt64} (base : UInt64) :
    Suits allocationType inputMemory numberOfPages d base ↔
      4096 ∣ base.toNat ∧ d.toSegment.start ≤ base.toNat ∧ base.toNat + numberOfPages.toNat * 4096 ≤
        (if allocationType = EFI_ALLOCATE_MAX_ADDRESS then min (d.toSegment.stop - 1) inputMemory.toNat
          else d.toSegment.stop - 1) + 1 := by
  have hstop : d.toSegment.stop = d.toSegment.start + d.numberOfPages.toNat * 4096 := rfl
  constructor
  · rintro ⟨⟨_, hdvd, hlo, hhi⟩, _, hmax⟩
    refine ⟨hdvd, hlo, ?_⟩
    split
    · next hpolicy' =>
      have := hmax hpolicy'
      omega
    · omega
  · rintro ⟨hdvd, hlo, hhi⟩
    split at hhi
    · exact ⟨⟨htype, hdvd, hlo, by omega⟩, fun h => absurd h hpolicy, fun _ => by omega⟩
    · next hmax => exact ⟨⟨htype, hdvd, hlo, by omega⟩, fun h => absurd h hpolicy, fun h => absurd h hmax⟩

/-- **The place in one descriptor** is the highest one that suits, if there is one. -/
theorem fitsAllocatePages_spec (hd : d.WellFormed) (hpos : 0 < d.numberOfPages.toNat) {inputMemory : UInt64}
    (hn : 0 < numberOfPages.toNat) (hcount : numberOfPages.toNat * 4096 < 2 ^ 64)
    (haddress : allocationType = EFI_ALLOCATE_ADDRESS → 4096 ∣ inputMemory.toNat) :
    match fitsAllocatePages allocationType inputMemory (numberOfPages * EFI_PAGE_SIZE) d with
    | none => ∀ base, ¬ Suits allocationType inputMemory numberOfPages d base
    | some base => Suits allocationType inputMemory numberOfPages d base ∧
        ∀ base', Suits allocationType inputMemory numberOfPages d base' → base'.toNat ≤ base.toNat := by
  have hend := endAddress_toNat hd
  have hbytes := pages_toNat hcount
  have haligned := hd.aligned
  unfold fitsAllocatePages
  by_cases htype : d.type = EFI_MEMORY_CONVENTIONAL
  case neg =>
    rw [if_pos htype]
    exact fun base hsuits => htype hsuits.1.conventional
  rw [if_neg (not_not.mpr htype)]
  dsimp only
  by_cases hpolicy : allocationType = EFI_ALLOCATE_ADDRESS
  · rw [if_pos hpolicy]
    have hcond := address_within_iff hd inputMemory hcount
    have hmax : allocationType ≠ EFI_ALLOCATE_MAX_ADDRESS := by
      rw [hpolicy]
      decide
    by_cases hin : d.toSegment.start ≤ inputMemory.toNat ∧
        inputMemory.toNat + numberOfPages.toNat * 4096 ≤ d.toSegment.stop
    · rw [if_pos (hcond.mpr hin)]
      refine ⟨⟨⟨htype, haddress hpolicy, hin.1, hin.2⟩, fun _ => rfl, fun h => absurd h hmax⟩, ?_⟩
      exact fun base' hsuits => (congrArg UInt64.toNat (hsuits.2.1 hpolicy)).le
    · rw [if_neg (mt hcond.mp hin)]
      intro base hsuits
      obtain rfl := hsuits.2.1 hpolicy
      exact hin ⟨hsuits.1.start_le, hsuits.1.le_stop⟩
  · rw [if_neg hpolicy]
    have hallowed := toNat_allowedEnd hd hpos allocationType inputMemory
    have hle : (if allocationType = EFI_ALLOCATE_MAX_ADDRESS then min (d.toSegment.stop - 1) inputMemory.toNat
        else d.toSegment.stop - 1) ≤ d.toSegment.stop - 1 := by
      split
      · exact Nat.min_le_left _ _
      · exact le_rfl
    simp only [suits_iff_below hpos htype hpolicy]
    generalize (if allocationType = EFI_ALLOCATE_MAX_ADDRESS then min (d.endAddress - 1) inputMemory
      else d.endAddress - 1) = allowedEnd at hallowed ⊢
    rw [← hallowed] at hle ⊢
    exact highestPlace haligned rfl hbytes hn hend (Nat.lt_add_of_pos_right (Nat.mul_pos hpos (by decide))) hle

/-! ## The place in the map -/

/-- The pages from `base` are conventional memory, with the same attributes throughout. -/
def ConventionalPages (map : List EfiMemoryDescriptor) (base numberOfPages : UInt64) : Prop :=
  ∃ attributes, ∀ x, InRange base numberOfPages x → Describes map x EFI_MEMORY_CONVENTIONAL attributes

/-- A place where the request may be served. -/
structure Placeable (map : List EfiMemoryDescriptor) (allocationType : UInt32)
    (inputMemory numberOfPages base : UInt64) : Prop where
  nonempty : numberOfPages ≠ 0
  aligned : 4096 ∣ base.toNat
  conventional : ConventionalPages map base numberOfPages
  allowed : Allows allocationType inputMemory numberOfPages base

/-- The highest place. -/
def HighestPlace (map : List EfiMemoryDescriptor) (allocationType : UInt32)
    (inputMemory numberOfPages base : UInt64) : Prop :=
  Placeable map allocationType inputMemory numberOfPages base ∧
    ∀ base', Placeable map allocationType inputMemory numberOfPages base' → base' ≤ base

section Map
variable {lo hi : Nat} {map : List EfiMemoryDescriptor} {allocationType : UInt32} {inputMemory numberOfPages : UInt64}

/-- **A place lies in one descriptor.** -/
theorem placeable_iff (h : MapTiles lo hi map) (hn : 0 < numberOfPages.toNat) {base : UInt64} :
    Placeable map allocationType inputMemory numberOfPages base ↔
      ∃ d ∈ map, Suits allocationType inputMemory numberOfPages d base := by
  constructor
  · rintro ⟨-, haligned, ⟨attributes, hall⟩, hallowed⟩
    obtain ⟨s, hs, hlabel, hstart, hstop⟩ := h.merged.exists_segment h.tiling
      (Nat.lt_add_of_pos_right (n := base.toNat) (Nat.mul_pos hn (by decide)))
      fun x hlo hhi => describes_iff.mp (hall x ⟨hlo, hhi⟩)
    obtain ⟨d, hd, rfl⟩ := List.mem_map.mp hs
    exact ⟨d, hd, ⟨congrArg Prod.fst hlabel, haligned, hstart, hstop⟩, hallowed⟩
  · rintro ⟨d, hd, hfits, hallowed⟩
    refine ⟨fun hzero => ?_, hfits.aligned, ⟨d.attributes, fun x hx => ?_⟩, hallowed⟩
    · rw [hzero] at hn
      exact absurd hn (by decide)
    · exact ⟨d, hd, ⟨hfits.start_le.trans hx.1, lt_of_lt_of_le hx.2 hfits.le_stop⟩, hfits.conventional, rfl⟩

/-- **The choice.** The search from the end of the map finds the highest place. -/
theorem selectDescriptor_placement (h : MapTiles lo hi map) (hn : 0 < numberOfPages.toNat)
    (hcount : numberOfPages.toNat * 4096 < 2 ^ 64)
    (haddress : allocationType = EFI_ALLOCATE_ADDRESS → 4096 ∣ inputMemory.toNat) :
    match selectDescriptor (fitsAllocatePages allocationType inputMemory (numberOfPages * EFI_PAGE_SIZE)) map with
    | none => ∀ base, ¬ Placeable map allocationType inputMemory numberOfPages base
    | some (_, base) => HighestPlace map allocationType inputMemory numberOfPages base := by
  have hspec := fun d (hd : d ∈ map) => fitsAllocatePages_spec (h.wellFormed d hd)
    (Nat.pos_of_mul_pos_right (h.tiling.mem (List.mem_map_of_mem hd)).2.2) hn hcount haddress
  cases hselect : selectDescriptor (fitsAllocatePages allocationType inputMemory (numberOfPages * EFI_PAGE_SIZE)) map with
  | none =>
      intro base hbase
      obtain ⟨d, hd, hsuits⟩ := (placeable_iff h hn).mp hbase
      have hnone := hspec d hd
      rw [selectDescriptor_none hselect d hd] at hnone
      exact hnone base hsuits
  | some selected =>
      obtain ⟨selected, base⟩ := selected
      obtain ⟨pre, d, post, hmap, hfits, hpost⟩ := selectDescriptor_last hselect
      have hd : d ∈ map := hmap ▸ List.mem_append_right _ List.mem_cons_self
      have hsome := hspec d hd
      rw [hfits] at hsome
      refine ⟨(placeable_iff h hn).mpr ⟨d, hd, hsome.1⟩, fun base' hbase' => UInt64.le_iff_toNat_le.mpr ?_⟩
      obtain ⟨e, he, hsuits⟩ := (placeable_iff h hn).mp hbase'
      rw [hmap] at he
      rcases List.mem_append.mp he with hbefore | hafter
      · -- what lies in an earlier descriptor lies below
        have hsorted := List.pairwise_map.mp h.tiling.pairwise
        rw [hmap] at hsorted
        have hbelow := (List.pairwise_append.mp hsorted).2.2 e hbefore d List.mem_cons_self
        have hstop := hsuits.1.le_stop
        have hstart := hsome.1.1.start_le
        omega
      · rcases List.mem_cons.mp hafter with rfl | hafter
        · exact hsome.2 base' hsuits
        · have hnone := hspec e (hmap ▸ List.mem_append_right _ (List.mem_cons_of_mem _ hafter))
          rw [hpost e hafter] at hnone
          exact absurd hsuits (hnone base')

/-- The split gives the pages their type and nothing else another one. -/
theorem describes_splitSelected (h : MapTiles lo hi map) {selected : Nat} {base : UInt64}
    (hget : map[selected]? = some d) (hfits : FitsIn d base numberOfPages) (hn : 0 < numberOfPages.toNat)
    (type : UInt32) :
    WellFormedMap ((splitSelected map selected base numberOfPages type).foldl mergeDescriptor []) ∧
      ∀ x t a, Describes ((splitSelected map selected base numberOfPages type).foldl mergeDescriptor []) x t a ↔
        if InRange base numberOfPages x then t = type ∧ ∃ t', Describes map x t' a else Describes map x t a := by
  have hrep := represents_splitSelected h hget hfits hn type
  obtain ⟨htiles, hlabels⟩ := MapTiles.of_tiling hrep (h.tiling.overlay (by omega) _)
  exact ⟨htiles.wellFormedMap, describes_of_retyped fun x l => (hlabels x l).trans labels_overlay⟩

/-- A place ends below 2⁶⁴. -/
theorem Placeable.bounded (h : MapTiles lo hi map) {base : UInt64}
    (hbase : Placeable map allocationType inputMemory numberOfPages base) :
    base.toNat + numberOfPages.toNat * 4096 < 2 ^ 64 := by
  obtain ⟨d, hd, hsuits⟩ := (placeable_iff h (toNat_pos_of_ne_zero hbase.nonempty)).mp hbase
  exact lt_of_le_of_lt hsuits.1.le_stop (h.wellFormed d hd).bounded

end Map

/-! ## The service -/

/-- The arguments of a call. -/
structure PagesRequest where
  allocationType : UInt32
  memoryType : UInt32
  numberOfPages : UInt64
  memoryAddress : UInt64

def pagesRequest (cpu : CPUState) : PagesRequest where
  allocationType := (readCallerOutputRegister cpu 0).toUInt32
  memoryType := (readCallerOutputRegister cpu 1).toUInt32
  numberOfPages := readCallerOutputRegister cpu 2
  memoryAddress := readCallerOutputRegister cpu 3

section Services
variable {I M : Type _} [IMemory M]

/-- The service takes these arguments, with `inputMemory` behind the pointer. -/
structure PagesRequest.Valid (r : PagesRequest) (memory : M) (inputMemory : UInt64) : Prop where
  pointer : r.memoryAddress ≠ 0
  readable : readGuestU64 memory r.memoryAddress = some inputMemory
  inBounds : guestRangeWithinReportedMemory memory r.memoryAddress 8 ≠ some false
  writable : IMemory.writePermission memory r.memoryAddress 8 ≠ some false
  kind : ¬ r.allocationType > EFI_ALLOCATE_ADDRESS
  type : isAllocatableType r.memoryType = true
  aligned : r.allocationType = EFI_ALLOCATE_ADDRESS → 4096 ∣ inputMemory.toNat

/-- **The outcome of a valid call**, with the tables `m` before and `m'` after it. -/
structure PagesRequest.Outcome (r : PagesRequest) (inputMemory : UInt64) (m m' : EfiMemoryState) (memory memory' : M)
    (status : UInt64) : Prop where
  success : status = EFI_STATUS_SUCCESS → ∃ base map,
    HighestPlace m.efiMemoryMap r.allocationType inputMemory r.numberOfPages base ∧
      writeGuestU64 memory r.memoryAddress base = some memory' ∧
      m' = m.publishPages map ⟨base, r.numberOfPages, r.memoryType⟩ ∧ WellFormedMap map ∧
      ∀ x t a, Describes map x t a ↔
        if InRange base r.numberOfPages x then t = r.memoryType ∧ ∃ t', Describes m.efiMemoryMap x t' a
        else Describes m.efiMemoryMap x t a
  none_found : status = EFI_STATUS_NOT_FOUND ∨ status = EFI_STATUS_OUT_OF_RESOURCES ↔
    ∀ base, ¬ Placeable m.efiMemoryMap r.allocationType inputMemory r.numberOfPages base
  otherwise : status ≠ EFI_STATUS_SUCCESS → status ≠ EFI_STATUS_NOT_FOUND → status ≠ EFI_STATUS_OUT_OF_RESOURCES →
    status = EFI_STATUS_INVALID_PARAMETER ∧ ∃ base,
      HighestPlace m.efiMemoryMap r.allocationType inputMemory r.numberOfPages base ∧
        writeGuestU64 memory r.memoryAddress base = none

namespace PagesRequest.Outcome
variable {r : PagesRequest} {inputMemory : UInt64} {m m' : EfiMemoryState} {memory memory' : M}

theorem not_placed {status : UInt64} (hstatus : status = EFI_STATUS_NOT_FOUND ∨ status = EFI_STATUS_OUT_OF_RESOURCES)
    (hnone : ∀ base, ¬ Placeable m.efiMemoryMap r.allocationType inputMemory r.numberOfPages base) :
    r.Outcome inputMemory m m' memory memory' status := by
  refine ⟨?_, iff_of_true hstatus hnone, ?_⟩
  · rcases hstatus with rfl | rfl <;> exact fun h => absurd h (by decide)
  · intro _ hfound hresources
    exact (hstatus.elim hfound hresources).elim

theorem refused {base : UInt64}
    (hbase : HighestPlace m.efiMemoryMap r.allocationType inputMemory r.numberOfPages base)
    (hwrite : writeGuestU64 memory r.memoryAddress base = none) :
    r.Outcome inputMemory m m' memory memory' EFI_STATUS_INVALID_PARAMETER :=
  ⟨fun h => absurd h (by decide), iff_of_false (by decide) fun h => h base hbase.1, fun _ _ _ => ⟨rfl, base, hbase, hwrite⟩⟩

theorem placed {base : UInt64}
    (hbase : HighestPlace m.efiMemoryMap r.allocationType inputMemory r.numberOfPages base)
    (hwrite : writeGuestU64 memory r.memoryAddress base = some memory')
    (hmap : WellFormedMap map ∧ ∀ x t a, Describes map x t a ↔
      if InRange base r.numberOfPages x then t = r.memoryType ∧ ∃ t', Describes m.efiMemoryMap x t' a
      else Describes m.efiMemoryMap x t a) :
    r.Outcome inputMemory m (m.publishPages map ⟨base, r.numberOfPages, r.memoryType⟩) memory memory'
      EFI_STATUS_SUCCESS :=
  ⟨fun _ => ⟨base, map, hbase, hwrite, rfl, hmap⟩, iff_of_false (by decide) fun h => h base hbase.1,
    fun h => absurd rfl h⟩

end PagesRequest.Outcome

variable {p : IA64ISAPlugin I} {memory : M} {g : EfiHandoffGlobals}

/-- The counters play no part in building the map. -/
theorem ensureEfiMemoryMap_setCounters (g : EfiHandoffGlobals) (p : IA64ISAPlugin I) (memory : M) (c : EfiCounters) :
    ensureEfiMemoryMap g (p.setCounters c) memory =
      ((ensureEfiMemoryMap g p memory).1, (ensureEfiMemoryMap g p memory).2.setCounters c) := by
  unfold ensureEfiMemoryMap
  by_cases hbuilt : p.memoryMap.efiMemoryMapInitialized ∧ p.memoryMap.efiMemoryMapMemorySize = getTotalSize memory
  · rw [if_pos hbuilt]
    exact if_pos hbuilt
  · rw [if_neg hbuilt]
    refine (if_neg hbuilt).trans ?_
    dsimp only
    split <;> rfl

/-- Memory of less than a page has an empty map. -/
theorem ensureEfiMemoryMap_not_ready (h : (ensureEfiMemoryMap g p memory).1 = false) :
    (ensureEfiMemoryMap g p memory).2.memoryMap.efiMemoryMap = [] := by
  unfold ensureEfiMemoryMap at h ⊢
  dsimp only at h ⊢
  split at h
  · exact (Bool.false_ne_true h.symm).elim
  · next hstale =>
    rw [if_neg hstale]
    split at h
    · next hsmall => rw [if_pos hsmall]
    · exact (Bool.false_ne_true h.symm).elim

theorem pages_ge {n : UInt64} (h : n > UINT64_MAX / EFI_PAGE_SIZE) : 2 ^ 64 ≤ n.toNat * 4096 := by
  have hlt := UInt64.lt_iff_toNat_lt.mp h
  have hmax : (UINT64_MAX / EFI_PAGE_SIZE).toNat = 2 ^ 52 - 1 := rfl
  omega

/-- **A valid call** gets the highest place. -/
theorem allocatePages_valid (hmap : WellFormedMap (ensureEfiMemoryMap g p memory).2.memoryMap.efiMemoryMap)
    {inputMemory : UInt64} (hvalid : (pagesRequest p.cpu).Valid memory inputMemory) :
    (pagesRequest p.cpu).Outcome inputMemory (ensureEfiMemoryMap g p memory).2.memoryMap
      (handleEfiAllocatePages g p memory).2.1.memoryMap memory (handleEfiAllocatePages g p memory).2.2
      (handleEfiAllocatePages g p memory).1 := by
  obtain ⟨lo, hi, htiles⟩ := hmap.exists_mapTiles
  have hready : (ensureEfiMemoryMap g p memory).1 = false →
      (ensureEfiMemoryMap g p memory).2.memoryMap.efiMemoryMap = [] := ensureEfiMemoryMap_not_ready
  have hread : (if readCallerOutputRegister p.cpu 3 = 0 then none
      else readGuestU64 memory (readCallerOutputRegister p.cpu 3)) = some inputMemory :=
    (if_neg hvalid.pointer).trans hvalid.readable
  have hbounds : ¬(guestRangeWithinReportedMemory memory (readCallerOutputRegister p.cpu 3) 8 = some false ∨
      IMemory.writePermission memory (readCallerOutputRegister p.cpu 3) 8 = some false) :=
    not_or.mpr ⟨hvalid.inBounds, hvalid.writable⟩
  have hkind : ¬((readCallerOutputRegister p.cpu 0).toUInt32 > EFI_ALLOCATE_ADDRESS ∨
      (!isAllocatableType (readCallerOutputRegister p.cpu 1).toUInt32) = true) := by
    refine not_or.mpr ⟨hvalid.kind, ?_⟩
    have htype : isAllocatableType (readCallerOutputRegister p.cpu 1).toUInt32 = true := hvalid.type
    rw [htype]
    decide
  unfold handleEfiAllocatePages
  dsimp only
  have hcpu : (p.setCounters p.counters.countAllocatePages).cpu = p.cpu := rfl
  rw [ensureEfiMemoryMap_setCounters, hcpu, hread]
  dsimp only
  rw [if_neg hbounds, if_neg hkind]
  generalize ensureEfiMemoryMap g p memory = built at hready htiles ⊢
  obtain ⟨ready, p₀⟩ := built
  dsimp only at hready htiles ⊢
  have hbounded := fun base (h : Placeable p₀.memoryMap.efiMemoryMap (readCallerOutputRegister p.cpu 0).toUInt32
    inputMemory (readCallerOutputRegister p.cpu 2) base) => h.bounded htiles
  split
  case isTrue hcount =>
    -- no page, or more bytes than a word counts
    refine .not_placed (Or.inl rfl) fun base hbase => ?_
    rcases hcount with hzero | hmany
    · exact hbase.nonempty hzero
    · exact absurd (hbounded base hbase) (not_lt.mpr ((pages_ge hmany).trans (Nat.le_add_left _ _)))
  case isFalse hcount =>
  obtain ⟨hzero, hmany⟩ := not_or.mp hcount
  have hn := toNat_pos_of_ne_zero hzero
  have hbytes := pages_toNat (pages_lt hmany)
  split
  case isTrue hnot =>
    -- the map could not be built: it has no descriptor
    have hempty := hready (by simpa using hnot)
    refine .not_placed (Or.inr rfl) fun base hbase => ?_
    obtain ⟨d, hd, -⟩ := (placeable_iff htiles hn).mp hbase
    rw [hempty] at hd
    cases hd
  case isFalse =>
  split
  case isTrue hmisaligned =>
    refine absurd ?_ hmisaligned.2
    exact and_eq_zero_of_dvd (hvalid.aligned hmisaligned.1) (by decide)
  case isFalse =>
  split
  case isTrue hoverflow =>
    -- the only place allowed ends beyond the last address
    refine .not_placed (Or.inl rfl) fun base hbase => ?_
    obtain rfl : base = inputMemory := hbase.allowed.1 hoverflow.1
    have hlt := UInt64.lt_iff_toNat_lt.mp hoverflow.2
    rw [UInt64.toNat_sub_of_le _ _ (UInt64.le_iff_toNat_le.mpr (Nat.le_of_lt_succ (UInt64.toNat_lt _))), hbytes] at hlt
    have hend := hbounded _ hbase
    have hmax : UINT64_MAX.toNat = 2 ^ 64 - 1 := rfl
    rw [hmax] at hlt
    omega
  case isFalse =>
  have hplace : match selectDescriptor (fitsAllocatePages (readCallerOutputRegister p.cpu 0).toUInt32 inputMemory
      (readCallerOutputRegister p.cpu 2 * EFI_PAGE_SIZE)) p₀.memoryMap.efiMemoryMap with
    | none => ∀ base, ¬ Placeable p₀.memoryMap.efiMemoryMap _ inputMemory _ base
    | some (_, base) => HighestPlace p₀.memoryMap.efiMemoryMap _ inputMemory _ base :=
    selectDescriptor_placement htiles hn (pages_lt hmany) hvalid.aligned
  have hkept : (p₀.setCounters p.counters.countAllocatePages).memoryMap = p₀.memoryMap := rfl
  rw [hkept]
  split
  case h_1 hselect =>
    rw [hselect] at hplace
    exact .not_placed (Or.inl rfl) hplace
  case h_2 selected base hselect =>
  rw [hselect] at hplace
  have hend := hbounded base hplace.1
  split
  case isTrue hwrapped =>
    have hlt := UInt64.lt_iff_toNat_lt.mp hwrapped
    rw [UInt64.toNat_add, hbytes, Nat.mod_eq_of_lt hend] at hlt
    exact absurd hlt (by omega)
  case isFalse =>
  split
  case h_1 hwrite => exact .refused hplace hwrite
  case h_2 memory' hwrite =>
  obtain ⟨d, hget, hfits⟩ := selectDescriptor_some hselect
  have hd := htiles.wellFormed d (List.mem_of_getElem? hget)
  have hin := fitsIn_allocatePages hd (pages_lt hmany) hvalid.aligned hfits
  exact .placed hplace hwrite (describes_splitSelected htiles hget hin hn _)

/-- **A call that fails** leaves guest memory alone, and the tables but for building the map. -/
theorem allocatePages_failed {status : UInt64} {q : IA64ISAPlugin I} {memory' : M}
    (hcall : handleEfiAllocatePages g p memory = (status, q, memory')) (hfailed : status ≠ EFI_STATUS_SUCCESS) :
    memory' = memory ∧
      (q.memoryMap = p.memoryMap ∨ q.memoryMap = (ensureEfiMemoryMap g p memory).2.memoryMap) := by
  unfold handleEfiAllocatePages at hcall
  dsimp only at hcall
  rw [ensureEfiMemoryMap_setCounters] at hcall
  split at hcall
  · cases hcall
    exact ⟨rfl, Or.inl rfl⟩
  split at hcall
  · cases hcall
    exact ⟨rfl, Or.inl rfl⟩
  split at hcall
  · cases hcall
    exact ⟨rfl, Or.inl rfl⟩
  split at hcall
  · cases hcall
    exact ⟨rfl, Or.inl rfl⟩
  split at hcall
  · cases hcall
    exact ⟨rfl, Or.inr rfl⟩
  split at hcall
  · cases hcall
    exact ⟨rfl, Or.inr rfl⟩
  split at hcall
  · cases hcall
    exact ⟨rfl, Or.inr rfl⟩
  split at hcall
  · cases hcall
    exact ⟨rfl, Or.inr rfl⟩
  split at hcall
  · cases hcall
    exact ⟨rfl, Or.inr rfl⟩
  split at hcall
  · cases hcall
    exact ⟨rfl, Or.inr rfl⟩
  · cases hcall
    exact absurd rfl hfailed

/-- **Only a valid call succeeds.** -/
theorem allocatePages_succeeded {q : IA64ISAPlugin I} {memory' : M}
    (hcall : handleEfiAllocatePages g p memory = (EFI_STATUS_SUCCESS, q, memory')) :
    ∃ inputMemory, (pagesRequest p.cpu).Valid memory inputMemory := by
  unfold handleEfiAllocatePages at hcall
  dsimp only at hcall
  have hcpu : (p.setCounters p.counters.countAllocatePages).cpu = p.cpu := rfl
  rw [hcpu] at hcall
  split at hcall
  · injection hcall with hstatus
    exact absurd hstatus (by decide)
  next inputMemory hread =>
  split at hcall
  · injection hcall with hstatus
    exact absurd hstatus (by decide)
  next hrange =>
  split at hcall
  · injection hcall with hstatus
    exact absurd hstatus (by decide)
  next hkind =>
  split at hcall
  · injection hcall with hstatus
    exact absurd hstatus (by decide)
  split at hcall
  · injection hcall with hstatus
    exact absurd hstatus (by decide)
  split at hcall
  · injection hcall with hstatus
    exact absurd hstatus (by decide)
  next haligned =>
  obtain ⟨hbounds, hwritable⟩ := not_or.mp hrange
  obtain ⟨hkind, htype⟩ := not_or.mp hkind
  obtain ⟨hpointer, hreadable⟩ := Option.ite_none_left_eq_some.mp hread
  have htype' : isAllocatableType (readCallerOutputRegister p.cpu 1).toUInt32 = true := by simpa using htype
  refine ⟨inputMemory, hpointer, hreadable, hbounds, hwritable, hkind, htype', fun hpolicy => ?_⟩
  · rw [Nat.dvd_iff_mod_eq_zero, ← and_page_toNat]
    by_contra hne
    exact haligned ⟨hpolicy, fun hzero => hne (by rw [hzero]; rfl)⟩

end Services

/-! ## Placement -/

/-- **`AllocatePages` places exactly.** For every well-formed map, as the call finds or builds it: a valid call gets
    the highest place that the request allows, and fails where there is none or the address cannot be written; an
    invalid call fails; and no call that fails changes guest memory or the tables. -/
theorem allocatePages_placement : ∀ {I M : Type _} [IMemory M] (g : EfiHandoffGlobals) (p : IA64ISAPlugin I)
    (memory : M),
    WellFormedMap (ensureEfiMemoryMap g p memory).2.memoryMap.efiMemoryMap →
    ∀ status q memory', handleEfiAllocatePages g p memory = (status, q, memory') →
      (∀ inputMemory, (pagesRequest p.cpu).Valid memory inputMemory →
        (pagesRequest p.cpu).Outcome inputMemory (ensureEfiMemoryMap g p memory).2.memoryMap q.memoryMap memory memory'
          status) ∧
      (status = EFI_STATUS_SUCCESS → ∃ inputMemory, (pagesRequest p.cpu).Valid memory inputMemory) ∧
      (status ≠ EFI_STATUS_SUCCESS → memory' = memory ∧
        (q.memoryMap = p.memoryMap ∨ q.memoryMap = (ensureEfiMemoryMap g p memory).2.memoryMap) ∧
        (p.memoryMap.BuiltFor (getTotalSize memory) → q.memoryMap = p.memoryMap)) := by
  intro I M _ g p memory hmap status q memory' hcall
  refine ⟨fun inputMemory hvalid => ?_, ?_, fun hfailed => ?_⟩
  · have houtcome := allocatePages_valid hmap hvalid
    rw [hcall] at houtcome
    exact houtcome
  · rintro rfl
    exact allocatePages_succeeded hcall
  · obtain ⟨hmemory, htables⟩ := allocatePages_failed hcall hfailed
    refine ⟨hmemory, htables, fun hbuilt => ?_⟩
    rw [ensureEfiMemoryMap_of_builtFor g hbuilt] at htables
    exact htables.elim id id

/-- A call of `AllocatePages` for one page of loader data, with the pointer at `0x10`. -/
def pagesCaller (allocationType : UInt64) : IA64ISAPlugin Unit :=
  newPlugin.setCpu
    ((((CPUState.reset.setGR 32 allocationType).setGR 33 EFI_MEMORY_LOADER_DATA.toUInt64).setGR 34 1).setGR 35 0x10)

/-- Any page of a small memory. -/
theorem allocatePages_placement_any :
    ∃ base, HighestPlace (ensureEfiMemoryMap resetEfiHandoffLayoutGlobals (pagesCaller 0)
      smallMemory).2.memoryMap.efiMemoryMap (pagesRequest (pagesCaller 0).cpu).allocationType 0
      (pagesRequest (pagesCaller 0).cpu).numberOfPages base := by
  have hbuilt : EfiMapInvariant (getTotalSize smallMemory)
      (ensureEfiMemoryMap resetEfiHandoffLayoutGlobals (pagesCaller 0) smallMemory).2.memoryMap :=
    efiMapInvariant_ensure _ rfl
  have hsuccess : (handleEfiAllocatePages resetEfiHandoffLayoutGlobals (pagesCaller 0) smallMemory).1 =
      EFI_STATUS_SUCCESS := by decide +kernel
  cases hcall : handleEfiAllocatePages resetEfiHandoffLayoutGlobals (pagesCaller 0) smallMemory with
  | mk status rest =>
      rw [hcall] at hsuccess
      have hplaced := allocatePages_placement resetEfiHandoffLayoutGlobals (pagesCaller 0) smallMemory
        hbuilt.sound.toMapTiles.wellFormedMap status rest.1 rest.2 hcall
      have hvalid : (pagesRequest (pagesCaller 0).cpu).Valid smallMemory 0 :=
        ⟨by decide +kernel, by decide +kernel, by decide +kernel, by decide +kernel, by decide +kernel,
          by decide +kernel, fun _ => by decide +kernel⟩
      obtain ⟨base, _, hbase, _⟩ := (hplaced.1 0 hvalid).success hsuccess
      exact ⟨base, hbase⟩

/-- The pointer holds the address `0x100800`, in the middle of a free page. -/
def misalignedMemory : SparseMemory := ⟨0x200000, fun x => if x = 0x11 then 8 else if x = 0x12 then 0x10 else 0⟩

/-- A map of two free pages with different attributes. -/
def twoKinds : EfiMemoryState where
  efiMemoryMap := [⟨EFI_MEMORY_CONVENTIONAL, 0, 1, 0xF⟩, ⟨EFI_MEMORY_CONVENTIONAL, 0x1000, 1, 1⟩]
  efiMemoryMapMemorySize := 0x2000
  efiMemoryMapInitialized := true

/-- **Refused requests for free memory.** A page from a free address that is not a page address, and both pages of a map
    that gives them different attributes. -/
theorem free_pages_refused :
    ((∀ x, InRange 0x100800 1 x → Describes (ensureEfiMemoryMap resetEfiHandoffLayoutGlobals (pagesCaller 2)
          misalignedMemory).2.memoryMap.efiMemoryMap x EFI_MEMORY_CONVENTIONAL EFI_MEMORY_ATTRIBUTES) ∧
        readGuestU64 misalignedMemory 0x10 = some 0x100800 ∧
        (handleEfiAllocatePages resetEfiHandoffLayoutGlobals (pagesCaller 2) misalignedMemory).1 =
          EFI_STATUS_INVALID_PARAMETER) ∧
      (∀ x, InRange 0 2 x → ∃ attributes, Describes twoKinds.efiMemoryMap x EFI_MEMORY_CONVENTIONAL attributes) ∧
      (handleEfiAllocatePages resetEfiHandoffLayoutGlobals
        ((pagesCaller 0).setMemoryMap twoKinds |>.setCpu ((pagesCaller 0).cpu.setGR 34 2))
        (⟨0x2000, fun _ => 0⟩ : SparseMemory)).1 = EFI_STATUS_NOT_FOUND := by
  refine ⟨⟨fun x hx => ?_, by decide +kernel, by decide +kernel⟩, fun x hx => ?_, by decide +kernel⟩
  · refine ⟨⟨7, 0x100000, 176, 15⟩, by decide +kernel, ?_, rfl, rfl⟩
    have hlo : 0x100800 ≤ x := hx.1
    have hhi : x < 0x101800 := hx.2
    exact ⟨show 0x100000 ≤ x by omega, show x < 0x1B0000 by omega⟩
  · have hhi : x < 0x2000 := hx.2
    by_cases hfirst : x < 0x1000
    · exact ⟨0xF, _, List.mem_cons_self, ⟨Nat.zero_le x, hfirst⟩, rfl, rfl⟩
    · exact ⟨1, _, List.mem_cons_of_mem _ List.mem_cons_self, ⟨show 0x1000 ≤ x by omega, hhi⟩, rfl, rfl⟩

end GuideXOS.Isa
