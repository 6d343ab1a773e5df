import GuideXOS.Lib.Runs
import GuideXOS.Lib.Slots
import GuideXOS.Core.CpuState

/-!
# `Tlb` — the software translation lookaside buffers

Both TLBs of a processor are arrays of tagged entries with a round-robin replacement cursor, filled by
`insertTranslationEntry` and emptied by `purgeTranslationEntries`. This module models the two, says what a
first-match lookup finds, and settles when the array stays *functional*, i.e. no address is translated
twice under one region identifier:

* **Insertion** looks only for an entry of the *same* page size; it keeps the array functional exactly when
  no entry of another size overlaps the new page (`functional_set_iff`).
* **Purge** drops the entries that cover the purge *address*, whatever range was named; it clears the range
  exactly when every entry meeting the range covers that address (`purge_clears_iff`).

Both are lifted to runs over whole processor states at the end.
-/

namespace GuideXOS.Core
open Lib.Words Lib.Slots Lib.Runs

/-! ## Entry fields -/

/-- The 24-bit region identifier in a region register value. -/
def regionIdOf (regionValue : UInt64) : UInt64 := (regionValue >>> 8) &&& 0xFFFFFF

/-- The page size field of an `itir` or region register value, as a shift count. -/
def pageShiftOf (itir : UInt64) : UInt64 := (itir >>> 2) &&& 0x3F

/-- The page sizes the processor supports. -/
def ValidPageShift (pageShift : UInt64) : Prop := ¬ (pageShift < 12 ∨ 61 < pageShift)

instance (pageShift : UInt64) : Decidable (ValidPageShift pageShift) :=
  inferInstanceAs (Decidable (¬ _))

theorem ValidPageShift.toNat_lt {k : UInt64} (h : ValidPageShift k) : k.toNat < 64 := by
  have hle : k ≤ 61 := UInt64.not_lt.mp (not_or.mp h).2
  have := UInt64.le_iff_toNat_le.mp hle
  simp at this
  omega

/-- **`translationEntryCovers`.** -/
def translationEntryCovers (entry : TranslationRegisterState) (virtualAddress regionId : UInt64) : Bool :=
  if !entry.valid || regionIdOf entry.regionValue != regionId then false
  else
    let pageShift := pageShiftOf entry.itir
    if pageShift < 12 ∨ 61 < pageShift then false
    else
      let pageMask := lowMask pageShift
      entry.virtualAddress &&& ~~~pageMask == virtualAddress &&& ~~~pageMask

/-- **What an entry answers for**, in terms of block numbers. -/
theorem translationEntryCovers_iff {e : TranslationRegisterState} {va rid : UInt64} :
    translationEntryCovers e va rid = true ↔
      e.valid = true ∧ regionIdOf e.regionValue = rid ∧ ValidPageShift (pageShiftOf e.itir) ∧
        block (pageShiftOf e.itir).toNat e.virtualAddress.toNat =
          block (pageShiftOf e.itir).toNat va.toNat := by
  unfold translationEntryCovers
  by_cases hv : e.valid = true
  · by_cases hr : regionIdOf e.regionValue = rid
    · by_cases hk : ValidPageShift (pageShiftOf e.itir)
      · rw [if_neg (by simp [hv, hr])]
        simp only [show ¬ (pageShiftOf e.itir < 12 ∨ 61 < pageShiftOf e.itir) from hk, if_false,
          beq_iff_eq]
        rw [and_not_lowMask_eq_iff hk.toNat_lt]
        exact ⟨fun h => ⟨hv, hr, hk, h⟩, fun h => h.2.2.2⟩
      · have hbad : pageShiftOf e.itir < 12 ∨ 61 < pageShiftOf e.itir := not_not.mp hk
        simp [hv, hr, hbad, hk]
    · simp [hr]
  · simp [hv]

/-- The addresses an entry translates, each with the region identifier it is translated under. -/
def coverage (e : TranslationRegisterState) : Set (UInt64 × UInt64) :=
  {x | translationEntryCovers e x.2 x.1 = true}

/-! ## Insertion -/

section Arrays
variable {n : Nat} {entries : Vector TranslationRegisterState n} {s : Fin n}

/-- The slot an insertion writes: the first entry of this page and size, else the first invalid entry,
    else the one under the replacement cursor, which then moves on. -/
def selectEntry (entries : Vector TranslationRegisterState n) (replacementIndex : Fin n)
    (alignedVirtualAddress rid pageShift : UInt64) : Fin n × Fin n :=
  match scan
      (fun i => translationEntryCovers entries[i] alignedVirtualAddress rid &&
        pageShiftOf entries[i].itir == pageShift)
      (fun i => !entries[i].valid) (List.finRange n) none with
  | some selected => (selected, replacementIndex)
  | none => (replacementIndex, ⟨(replacementIndex.val + 1) % n, Nat.mod_lt _ replacementIndex.pos⟩)

/-- **`insertTranslationEntry`.** An unsupported page size is refused and nothing changes. -/
def insertTranslationEntry (entries : Vector TranslationRegisterState n) (replacementIndex : Fin n)
    (tte virtualAddress itir regionValue : UInt64) :
    Except String (Vector TranslationRegisterState n × Fin n) :=
  let rid := regionIdOf regionValue
  let pageShift := pageShiftOf itir
  if pageShift < 12 ∨ 61 < pageShift then
    .error "IA-64 TLB insertion has an invalid page size"
  else
    let alignedVirtualAddress := virtualAddress &&& ~~~lowMask pageShift
    let (selected, replacementIndex) :=
      selectEntry entries replacementIndex alignedVirtualAddress rid pageShift
    .ok (entries.set selected
      { physicalAddress := tte, virtualAddress := alignedVirtualAddress, itir := itir,
        regionValue := regionValue, valid := true } selected.isLt, replacementIndex)

/-- **`purgeTranslationEntries`.** -/
def purgeTranslationEntries (entries : Vector TranslationRegisterState n)
    (virtualAddress pageShift regionId : UInt64) : Vector TranslationRegisterState n :=
  if pageShift < 12 ∨ 61 < pageShift then entries
  else entries.map fun entry =>
    if translationEntryCovers entry virtualAddress regionId then { entry with valid := false } else entry

/-- The first entry, by index, that covers an address. -/
def firstCovering (entries : Vector TranslationRegisterState n) (virtualAddress regionId : UInt64) :
    Option (Fin n) :=
  (List.finRange n).find? fun i => translationEntryCovers entries[i] virtualAddress regionId

/-- **At most one valid entry covers an address** under one region identifier. -/
def Functional (entries : Vector TranslationRegisterState n) : Prop :=
  Exclusive fun i : Fin n => coverage entries[i]

theorem functional_empty : Functional (Vector.replicate n {}) := by
  have h : (fun i : Fin n => coverage (Vector.replicate n ({} : TranslationRegisterState))[i])
      = fun _ => ∅ := by
    funext i
    refine Set.eq_empty_iff_forall_notMem.mpr fun x hx => ?_
    have := (translationEntryCovers_iff.mp hx).1
    simp at this
  rw [Functional, h]
  exact exclusive_empty

/-- In a functional array the lookup finds the one covering entry. -/
theorem firstCovering_of_functional (h : Functional entries) {va rid : UInt64}
    (hs : translationEntryCovers entries[s] va rid = true) : firstCovering entries va rid = some s :=
  find?_of_exclusive (x := (rid, va)) h (fun _ => Iff.rfl) (List.mem_finRange s) hs

/-- Two addresses in one page of the given size. -/
def SamePage (pageShift a b : UInt64) : Prop :=
  block pageShift.toNat a.toNat = block pageShift.toNat b.toNat

/-- An entry of exactly this page and size: what an insertion overwrites in place. -/
def MatchesPage (e : TranslationRegisterState) (virtualAddress regionId pageShift : UInt64) : Prop :=
  translationEntryCovers e virtualAddress regionId = true ∧ pageShiftOf e.itir = pageShift

/-- An entry of the page's size covering one address of the page covers all of it. -/
theorem matchesPage_of_samePage {e : TranslationRegisterState} {a va rid k : UInt64}
    (hc : translationEntryCovers e a rid = true) (hk : pageShiftOf e.itir = k) (h : SamePage k a va) :
    MatchesPage e va rid k := by
  obtain ⟨hv, hr, hvalid, hblock⟩ := translationEntryCovers_iff.mp hc
  refine ⟨translationEntryCovers_iff.mpr ⟨hv, hr, hvalid, hblock.trans ?_⟩, hk⟩
  rw [hk]
  exact h

theorem samePage_align {k : UInt64} (hk : ValidPageShift k) (va : UInt64) :
    SamePage k (va &&& ~~~lowMask k) va :=
  block_and_not_lowMask hk.toNat_lt va

/-- **Where an insertion lands.** In place of an entry of the same page and size; else on an invalid
    entry; else, the array being full, under the replacement cursor. -/
theorem selectEntry_cases (entries : Vector TranslationRegisterState n) (cursor : Fin n) {va rid k : UInt64}
    (hk : ValidPageShift k) (hs : (selectEntry entries cursor (va &&& ~~~lowMask k) rid k).1 = s) :
    MatchesPage entries[s] va rid k ∨
      ((∀ i : Fin n, ¬ MatchesPage entries[i] va rid k) ∧ entries[s].valid = false) ∨
      ((∀ i : Fin n, ¬ MatchesPage entries[i] va rid k) ∧ (∀ i : Fin n, entries[i].valid = true) ∧
        s = cursor) := by
  have hmatch : ∀ i : Fin n, (translationEntryCovers entries[i] (va &&& ~~~lowMask k) rid &&
      pageShiftOf entries[i].itir == k) = true ↔ MatchesPage entries[i] va rid k := by
    intro i
    rw [Bool.and_eq_true, beq_iff_eq]
    exact ⟨fun h => matchesPage_of_samePage h.1 h.2 (samePage_align hk va),
      fun h => matchesPage_of_samePage h.1 h.2 (samePage_align hk va).symm⟩
  rw [selectEntry, scan_eq_find?, Option.none_or] at hs
  cases hfind : (List.finRange n).find? (fun i =>
      translationEntryCovers entries[i] (va &&& ~~~lowMask k) rid && pageShiftOf entries[i].itir == k) with
  | some t =>
      rw [hfind] at hs
      obtain rfl : t = s := hs
      have hfound := List.find?_some (p := fun i : Fin n => _) hfind
      exact .inl ((hmatch t).mp hfound)
  | none =>
      have hnone : ∀ i : Fin n, ¬ MatchesPage entries[i] va rid k := fun i hi =>
        List.find?_eq_none.mp hfind i (List.mem_finRange i) ((hmatch i).mpr hi)
      cases hfree : (List.finRange n).find? (fun i => !entries[i].valid) with
      | some t =>
          rw [hfind, hfree] at hs
          obtain rfl : t = s := hs
          have hinv := List.find?_some (p := fun i : Fin n => !entries[i].valid) hfree
          exact .inr (.inl ⟨hnone, Bool.not_eq_true' _ ▸ hinv⟩)
      | none =>
          rw [hfind, hfree] at hs
          refine .inr (.inr ⟨hnone, fun i => ?_, hs.symm⟩)
          have hval := List.find?_eq_none.mp hfree i (List.mem_finRange i)
          rwa [Bool.not_eq_true', Bool.not_eq_false] at hval

/-- **When an insertion is safe.** Every valid entry of the same region that overlaps the new page has the
    new page's size, or is the entry the full array gives up for it. -/
def InsertSafe (entries : Vector TranslationRegisterState n) (cursor : Fin n)
    (virtualAddress itir regionValue : UInt64) : Prop :=
  ∀ (i : Fin n) (a : UInt64), translationEntryCovers entries[i] a (regionIdOf regionValue) = true →
    SamePage (pageShiftOf itir) a virtualAddress →
    pageShiftOf entries[i].itir = pageShiftOf itir ∨
      (i = cursor ∧ ∀ j : Fin n, entries[j].valid = true ∧
        ¬ MatchesPage entries[j] virtualAddress (regionIdOf regionValue) (pageShiftOf itir))

/-- The entry an insertion writes. -/
def insertedEntry (tte virtualAddress itir regionValue : UInt64) : TranslationRegisterState where
  physicalAddress := tte
  virtualAddress := virtualAddress &&& ~~~lowMask (pageShiftOf itir)
  itir := itir
  regionValue := regionValue
  valid := true

theorem insertTranslationEntry_ok {cursor : Fin n} {tte va itir rv : UInt64}
    (hk : ValidPageShift (pageShiftOf itir)) :
    insertTranslationEntry entries cursor tte va itir rv =
      let sel := selectEntry entries cursor (va &&& ~~~lowMask (pageShiftOf itir)) (regionIdOf rv)
        (pageShiftOf itir)
      .ok (entries.set sel.1 (insertedEntry tte va itir rv) sel.1.isLt, sel.2) := by
  unfold insertTranslationEntry
  exact if_neg hk

theorem mem_coverage_inserted {tte va itir rv : UInt64} (hk : ValidPageShift (pageShiftOf itir))
    {x : UInt64 × UInt64} :
    x ∈ coverage (insertedEntry tte va itir rv) ↔
      x.1 = regionIdOf rv ∧ SamePage (pageShiftOf itir) x.2 va := by
  have halign := samePage_align hk va
  unfold coverage
  rw [Set.mem_ofPred_eq, translationEntryCovers_iff]
  constructor
  · rintro ⟨-, hr, -, hb⟩
    exact ⟨hr.symm, (halign.symm.trans hb).symm⟩
  · rintro ⟨hr, hb⟩
    exact ⟨rfl, hr.symm, hk, halign.trans hb.symm⟩

/-- **Insertion keeps the array functional exactly when it is safe.** -/
theorem functional_set_iff (h : Functional entries) {cursor : Fin n} {tte va itir rv : UInt64}
    (hk : ValidPageShift (pageShiftOf itir))
    (hs : (selectEntry entries cursor (va &&& ~~~lowMask (pageShiftOf itir)) (regionIdOf rv)
      (pageShiftOf itir)).1 = s) :
    Functional (entries.set s (insertedEntry tte va itir rv) s.isLt) ↔
      InsertSafe entries cursor va itir rv := by
  have hcases := selectEntry_cases entries cursor hk hs
  have hother : ∀ i : Fin n, i ≠ s →
      coverage (entries.set s (insertedEntry tte va itir rv) s.isLt)[i] = coverage entries[i] := by
    intro i hi
    rw [Fin.getElem_fin, Vector.getElem_set_ne _ _ fun hval => hi (Fin.ext hval.symm)]
    rfl
  have hself : coverage (entries.set s (insertedEntry tte va itir rv) s.isLt)[s] =
      coverage (insertedEntry tte va itir rv) := by
    rw [Fin.getElem_fin, Vector.getElem_set_self]
  refine (exclusive_rewrite_iff h hother).trans ?_
  simp only [hself]
  constructor
  · intro hdisj i a hcov hpage
    have his : i = s := by
      by_contra hne
      have hi : (regionIdOf rv, a) ∈ coverage entries[i] := hcov
      exact Set.disjoint_left.mp (hdisj i hne) hi ((mem_coverage_inserted hk).mpr ⟨rfl, hpage⟩)
    subst his
    rcases hcases with hm | ⟨-, hinv⟩ | ⟨hnone, hfull, hcur⟩
    · exact .inl hm.2
    · exact absurd (translationEntryCovers_iff.mp hcov).1 (by rw [hinv]; decide)
    · exact .inr ⟨hcur, fun j => ⟨hfull j, hnone j⟩⟩
  · intro hsafe i hne
    refine Set.disjoint_left.mpr fun x hx hnew => ?_
    obtain ⟨hr, hpage⟩ := (mem_coverage_inserted hk).mp hnew
    have hcov : translationEntryCovers entries[i] x.2 (regionIdOf rv) = true := hr ▸ hx
    rcases hsafe i x.2 hcov hpage with hsize | ⟨hcur, hall⟩
    · -- an entry of the same page and size is the one overwritten
      have hm := matchesPage_of_samePage hcov hsize hpage
      rcases hcases with hs | ⟨hnone, -⟩ | ⟨hnone, -, -⟩
      · exact hne (h i s (regionIdOf rv, va) hm.1 hs.1)
      · exact hnone i hm
      · exact hnone i hm
    · rcases hcases with hs | ⟨-, hinv⟩ | ⟨-, -, hcur'⟩
      · exact (hall s).2 hs
      · exact absurd (hall s).1 (by rw [hinv]; decide)
      · exact hne (hcur.trans hcur'.symm)

/-- **The lookup finds the inserted entry** once the array is functional. -/
theorem firstCovering_set {tte va itir rv : UInt64} (hk : ValidPageShift (pageShiftOf itir))
    (h : Functional (entries.set s (insertedEntry tte va itir rv) s.isLt)) :
    firstCovering (entries.set s (insertedEntry tte va itir rv) s.isLt) va (regionIdOf rv) = some s := by
  refine firstCovering_of_functional h ?_
  rw [Fin.getElem_fin, Vector.getElem_set_self]
  have hmem : (regionIdOf rv, va) ∈ coverage (insertedEntry tte va itir rv) :=
    (mem_coverage_inserted hk).mpr ⟨rfl, rfl⟩
  exact hmem

/-! ## Purge -/

/-- **When a purge clears its range.** Every valid entry of the region that meets the `2 ^ pageShift`-byte
    range covers the purge address itself. -/
def PurgeSafe (entries : Vector TranslationRegisterState n)
    (virtualAddress pageShift regionId : UInt64) : Prop :=
  ∀ (i : Fin n) (a : UInt64), translationEntryCovers entries[i] a regionId = true →
    SamePage pageShift a virtualAddress → translationEntryCovers entries[i] virtualAddress regionId = true

/-- No valid entry of the region translates an address of the range. -/
def RangeCleared (entries : Vector TranslationRegisterState n)
    (virtualAddress pageShift regionId : UInt64) : Prop :=
  ∀ (i : Fin n) (a : UInt64), SamePage pageShift a virtualAddress →
    translationEntryCovers entries[i] a regionId = false

theorem purged_covers {va k rid : UInt64} (hk : ValidPageShift k) (i : Fin n) (a rid' : UInt64) :
    translationEntryCovers (purgeTranslationEntries entries va k rid)[i] a rid' =
      (translationEntryCovers entries[i] a rid' && !translationEntryCovers entries[i] va rid) := by
  rw [purgeTranslationEntries, if_neg hk, Fin.getElem_fin, Vector.getElem_map]
  show translationEntryCovers (if translationEntryCovers entries[i] va rid = true
    then { entries[i] with valid := false } else entries[i]) a rid' = _
  cases translationEntryCovers entries[i] va rid with
  | false => rw [if_neg Bool.false_ne_true, Bool.not_false, Bool.and_true]
  | true =>
      rw [if_pos rfl, Bool.not_true, Bool.and_false]
      rfl

/-- A purge only takes translations away. -/
theorem functional_purge (h : Functional entries) (va k rid : UInt64) :
    Functional (purgeTranslationEntries entries va k rid) := by
  by_cases hk : ValidPageShift k
  · refine h.mono fun i x hx => ?_
    have hx' : translationEntryCovers (purgeTranslationEntries entries va k rid)[i] x.2 x.1 = true := hx
    rw [purged_covers hk, Bool.and_eq_true] at hx'
    exact hx'.1
  · rw [purgeTranslationEntries, if_pos (not_not.mp hk)]
    exact h

theorem purge_clears_iff {va k rid : UInt64} (hk : ValidPageShift k) :
    RangeCleared (purgeTranslationEntries entries va k rid) va k rid ↔ PurgeSafe entries va k rid := by
  constructor
  · intro h i a hcov hpage
    have := h i a hpage
    rw [purged_covers hk, hcov, Bool.true_and] at this
    simpa using this
  · intro h i a hpage
    rw [purged_covers hk]
    cases hcov : translationEntryCovers entries[i] a rid with
    | false => rfl
    | true => rw [h i a hcov hpage]; rfl

end Arrays

/-! ## The TLBs of a processor -/

namespace CPUState

variable (s : CPUState)

def insertITLB (tte virtualAddress itir regionValue : UInt64) : Except String CPUState :=
  (insertTranslationEntry s.itlb s.itlbReplacementIndex tte virtualAddress itir regionValue).map
    fun r => { s with itlb := r.1, itlbReplacementIndex := r.2 }

def insertDTLB (tte virtualAddress itir regionValue : UInt64) : Except String CPUState :=
  (insertTranslationEntry s.dtlb s.dtlbReplacementIndex tte virtualAddress itir regionValue).map
    fun r => { s with dtlb := r.1, dtlbReplacementIndex := r.2 }

def purgeITLB (virtualAddress pageShift regionId : UInt64) : CPUState :=
  { s with itlb := purgeTranslationEntries s.itlb virtualAddress pageShift regionId }

def purgeDTLB (virtualAddress pageShift regionId : UInt64) : CPUState :=
  { s with dtlb := purgeTranslationEntries s.dtlb virtualAddress pageShift regionId }

end CPUState

/-- The operations guest software has on the two TLBs. -/
inductive TlbOp where
  | insertITLB (tte virtualAddress itir regionValue : UInt64)
  | insertDTLB (tte virtualAddress itir regionValue : UInt64)
  | purgeITLB (virtualAddress pageShift regionId : UInt64)
  | purgeDTLB (virtualAddress pageShift regionId : UInt64)

namespace TlbOp

/-- One operation; a refused insertion changes nothing. -/
def apply (s : CPUState) : TlbOp → CPUState
  | insertITLB tte va itir rv => (s.insertITLB tte va itir rv).toOption.getD s
  | insertDTLB tte va itir rv => (s.insertDTLB tte va itir rv).toOption.getD s
  | purgeITLB va k rid => s.purgeITLB va k rid
  | purgeDTLB va k rid => s.purgeDTLB va k rid

/-- The array carries the inserted entry where the lookup finds it. -/
def Finds (entries : Vector TranslationRegisterState 64) (tte va itir rv : UInt64) : Prop :=
  ValidPageShift (pageShiftOf itir) →
    (firstCovering entries va (regionIdOf rv)).map (fun i => (getElem entries i (fin_lt_64 i)).physicalAddress) =
      some tte

/-- **What an operation promises** of the state it leaves, for page sizes the processor supports. -/
def Honoured (s : CPUState) : TlbOp → Prop
  | insertITLB tte va itir rv => Finds s.itlb tte va itir rv
  | insertDTLB tte va itir rv => Finds s.dtlb tte va itir rv
  | purgeITLB va k rid => ValidPageShift k → RangeCleared s.itlb va k rid
  | purgeDTLB va k rid => ValidPageShift k → RangeCleared s.dtlb va k rid

/-- **When it keeps the promise**, read off the state it is applied in. -/
def Safe (s : CPUState) : TlbOp → Prop
  | insertITLB _ va itir rv =>
      ValidPageShift (pageShiftOf itir) → InsertSafe s.itlb s.itlbReplacementIndex va itir rv
  | insertDTLB _ va itir rv =>
      ValidPageShift (pageShiftOf itir) → InsertSafe s.dtlb s.dtlbReplacementIndex va itir rv
  | purgeITLB va k rid => ValidPageShift k → PurgeSafe s.itlb va k rid
  | purgeDTLB va k rid => ValidPageShift k → PurgeSafe s.dtlb va k rid

end TlbOp

/-- Both arrays of a processor are functional. -/
def TlbsFunctional (s : CPUState) : Prop := Functional s.itlb ∧ Functional s.dtlb

/-- A step leaves both arrays functional and keeps its operation's promise. -/
def TlbStepHonoured (s : CPUState) (op : TlbOp) : Prop :=
  TlbsFunctional (op.apply s) ∧ op.Honoured (op.apply s)

variable {entries : Vector TranslationRegisterState 64}

/-- An insertion, applied to one array: refused, or at the selected slot. -/
theorem insert_honoured_iff {cursor : Fin 64} (h : Functional entries) (tte va itir rv : UInt64) :
    let after := ((insertTranslationEntry entries cursor tte va itir rv).toOption.getD (entries, cursor)).1
    (Functional after ∧ TlbOp.Finds after tte va itir rv) ↔
      (ValidPageShift (pageShiftOf itir) → InsertSafe entries cursor va itir rv) := by
  by_cases hk : ValidPageShift (pageShiftOf itir)
  · rw [insertTranslationEntry_ok hk]
    refine Iff.trans ⟨fun hq => hq.1, fun hq => ⟨hq, fun _ => ?_⟩⟩
      ((functional_set_iff h hk rfl).trans ⟨fun hs _ => hs, fun hs => hs hk⟩)
    simp only [Except.toOption, Option.getD_some] at hq ⊢
    rw [firstCovering_set hk hq, Option.map_some, Fin.getElem_fin, Vector.getElem_set_self]
    rfl
  · rw [insertTranslationEntry, if_pos (not_not.mp hk)]
    exact ⟨fun _ hk' => absurd hk' hk, fun _ => ⟨h, fun hk' => absurd hk' hk⟩⟩

theorem purge_honoured_iff (h : Functional entries) (va k rid : UInt64) :
    (Functional (purgeTranslationEntries entries va k rid) ∧
        (ValidPageShift k → RangeCleared (purgeTranslationEntries entries va k rid) va k rid)) ↔
      (ValidPageShift k → PurgeSafe entries va k rid) :=
  ⟨fun hq hk => (purge_clears_iff hk).mp (hq.2 hk),
    fun hs => ⟨functional_purge h va k rid, fun hk => (purge_clears_iff hk).mpr (hs hk)⟩⟩

/-- **One step.** With both arrays functional, an operation keeps them so and keeps its promise exactly
    when it is safe. -/
theorem tlbStepHonoured_iff {s : CPUState} (h : TlbsFunctional s) (op : TlbOp) :
    TlbStepHonoured s op ↔ op.Safe s := by
  obtain ⟨hi, hd⟩ := h
  cases op with
  | insertITLB tte va itir rv =>
      refine Iff.trans ?_ (insert_honoured_iff hi tte va itir rv)
      simp only [TlbStepHonoured, TlbsFunctional, TlbOp.apply, TlbOp.Honoured, CPUState.insertITLB]
      cases insertTranslationEntry s.itlb s.itlbReplacementIndex tte va itir rv <;>
        exact ⟨fun hq => ⟨hq.1.1, hq.2⟩, fun hq => ⟨⟨hq.1, hd⟩, hq.2⟩⟩
  | insertDTLB tte va itir rv =>
      refine Iff.trans ?_ (insert_honoured_iff hd tte va itir rv)
      simp only [TlbStepHonoured, TlbsFunctional, TlbOp.apply, TlbOp.Honoured, CPUState.insertDTLB]
      cases insertTranslationEntry s.dtlb s.dtlbReplacementIndex tte va itir rv <;>
        exact ⟨fun hq => ⟨hq.1.2, hq.2⟩, fun hq => ⟨⟨hi, hq.1⟩, hq.2⟩⟩
  | purgeITLB va k rid =>
      refine Iff.trans ?_ (purge_honoured_iff hi va k rid)
      exact ⟨fun hq => ⟨hq.1.1, hq.2⟩, fun hq => ⟨⟨hq.1, hd⟩, hq.2⟩⟩
  | purgeDTLB va k rid =>
      refine Iff.trans ?_ (purge_honoured_iff hd va k rid)
      exact ⟨fun hq => ⟨hq.1.2, hq.2⟩, fun hq => ⟨⟨hi, hq.1⟩, hq.2⟩⟩

theorem tlbsFunctional_reset : TlbsFunctional CPUState.reset := ⟨functional_empty, functional_empty⟩

/-- **Runs of insertions and purges from reset.** In every state of a run both arrays are functional and
    the last operation's promise is kept, exactly when every operation of the run is safe. -/
theorem tlb_run_honoured_iff (ops : List TlbOp) :
    EveryStep TlbOp.apply TlbStepHonoured CPUState.reset ops ↔
      EveryStep TlbOp.apply (fun s op => op.Safe s) CPUState.reset ops :=
  everyStep_congr TlbsFunctional (fun _ op hs => tlbStepHonoured_iff hs op)
    (fun _ op hs hsafe => ((tlbStepHonoured_iff hs op).mpr hsafe).1) tlbsFunctional_reset

/-- **A 4 KiB page inside a 16 KiB page.** The second insertion looks only for a 4 KiB entry, so the stale
    16 KiB one stays in front of it and the lookup still answers with its translation. -/
theorem tlb_run_not_honoured :
    ¬ EveryStep TlbOp.apply TlbStepHonoured CPUState.reset
      [.insertDTLB 0x4661 0x4000 0x38 0x100, .insertDTLB 0x9661 0x4000 0x30 0x100] := by
  intro h
  have hfinds := h.2.1.2 (by decide)
  revert hfinds
  decide +kernel

end GuideXOS.Core
