import GuideXOS.Core.AddressTranslation

/-!
# `DataAccess` — loads and stores through the data translation

`readData` and `writeData` translate the first byte of an access and transfer everything up to the end of the page
the translation reports; the next byte is translated again. What they should do is known byte by byte: `each`
translates every byte by itself.

The reported page can be larger than what the translation is good for: a window of the fixed aliases ends inside
it, or a register or TLB entry that covers part of it answers for the rest. `dataSource` says which of them answers
for an address, and `SameSources` that no page is left to another source halfway.
-/

namespace GuideXOS.Core
open Lib.Words Lib.Slots Lib.Fallible Lib.Stretches

/-! ## The transfers -/

inductive DataAccessException where
  | translation (e : TranslationException)
  | memory (what : String)

/-- The bytes from an address to the end of the page it was translated in. -/
def IA64AddressTranslation.roomAt (translated : IA64AddressTranslation) (address : UInt64) : Nat :=
  (translated.pageSize - (address &&& (translated.pageSize - 1))).toNat

section Transfers
variable {M : Type _} [IMemory M]

/-- The loop of `ReadData`. Every turn transfers at least one byte, so `remaining` turns are enough. -/
def readDataLoop (memory : M) :
    Nat → CPUState → UInt64 → Nat → Except DataAccessException (List UInt8) × CPUState
  | 0, cpu, _, _ => (.ok [], cpu)
  | fuel + 1, cpu, address, remaining =>
      if remaining = 0 then (.ok [], cpu)
      else
        match translateDataAddress cpu memory address .READ with
        | .error e => (.error (.translation e), cpu)
        | .ok (translated, cpu) =>
            let amount := min remaining (translated.roomAt address)
            match IMemory.read memory translated.physicalAddress amount with
            | .error what => (.error (.memory what), cpu)
            | .ok bytes =>
                let rest := readDataLoop memory fuel cpu (address + UInt64.ofNat amount) (remaining - amount)
                (rest.1.map (bytes ++ ·), rest.2)

/-- **`ReadData`.** -/
def readData (cpu : CPUState) (memory : M) (virtualAddress : UInt64) (size : Nat) :
    Except DataAccessException (List UInt8) × CPUState :=
  readDataLoop memory size cpu virtualAddress size

/-- The loop of `WriteData`. -/
def writeDataLoop : Nat → CPUState → M → UInt64 → List UInt8 → Except DataAccessException Unit × CPUState × M
  | 0, cpu, memory, _, _ => (.ok (), cpu, memory)
  | fuel + 1, cpu, memory, address, source =>
      if source = [] then (.ok (), cpu, memory)
      else
        match translateDataAddress cpu memory address .WRITE with
        | .error e => (.error (.translation e), cpu, memory)
        | .ok (translated, cpu) =>
            let amount := min source.length (translated.roomAt address)
            match IMemory.write memory translated.physicalAddress (source.take amount) with
            | .error what => (.error (.memory what), cpu, memory)
            | .ok memory => writeDataLoop fuel cpu memory (address + UInt64.ofNat amount) (source.drop amount)

/-- **`WriteData`.** What was written before a fault stays written. -/
def writeData (cpu : CPUState) (memory : M) (virtualAddress : UInt64) (source : List UInt8) :
    Except DataAccessException Unit × CPUState × M :=
  writeDataLoop source.length cpu memory virtualAddress source

/-! ## Byte by byte -/

/-- One address translated: where it lies, and the room there is. -/
def locateData (memory : M) (accessType : MemoryAccessType) (cpu : CPUState) (address : UInt64) :
    Except TranslationException (Located × CPUState) :=
  (translateDataAddress cpu memory address accessType).map fun r =>
    (⟨r.1.physicalAddress, r.1.roomAt address⟩, r.2)

/-- A load returns bytes exactly when every byte translates by itself, and then the bytes found there. -/
def ReadsBytewise (cpu : CPUState) (memory : M) (virtualAddress : UInt64) (size : Nat) : Prop :=
  ∀ bytes, (readData cpu memory virtualAddress size).1 = .ok bytes ↔
    ∃ addresses cpu', each (locateData memory .READ) cpu virtualAddress size = .ok (addresses, cpu') ∧
      readEach memory addresses = some bytes

/-- A store succeeds exactly when every byte translates by itself, and then changes these bytes and no others;
    otherwise it changes nothing. -/
def WritesBytewise (cpu : CPUState) (memory : M) (virtualAddress : UInt64) (source : List UInt8) : Prop :=
  (∀ memory', (∃ cpu', writeData cpu memory virtualAddress source = (.ok (), cpu', memory')) ↔
    ∃ addresses cpu', each (locateData memory .WRITE) cpu virtualAddress source.length = .ok (addresses, cpu') ∧
      writeEach memory (addresses.zip source) = some memory') ∧
  ∀ e cpu' memory', writeData cpu memory virtualAddress source = (.error e, cpu', memory') → memory' = memory

end Transfers

/-! ## Which source answers -/

/-- What a data address is translated by. -/
inductive DataSource where
  | physical
  | register (i : Fin 256)
  | tlb (i : Fin 64)
  | perCpu
  | region7
  | region6Replay
  | region6
  | walk
  deriving DecidableEq

def dataSource (cpu : CPUState) (virtualAddress : UInt64) : DataSource :=
  let rid := regionIdOf (cpu.getRR (regionOf virtualAddress))
  if cpu.psr &&& (1 : UInt64) <<< 17 == 0 then .physical
  else
    match firstCovering cpu.dtr virtualAddress rid with
    | some i => .register i
    | none =>
      match firstCovering cpu.dtlb virtualAddress rid with
      | some i => .tlb i
      | none =>
        if kPerCpuVirtualBase ≤ virtualAddress ∧ virtualAddress - kPerCpuVirtualBase < kPerCpuVirtualSpan then .perCpu
        else if virtualAddress >>> 61 = 7 then .region7
        else if virtualAddress >>> 61 = 6 then
          if kRegion6ReplayVirtualBase ≤ virtualAddress ∧
              virtualAddress - kRegion6ReplayVirtualBase < kRegion6ReplayVirtualSpan then .region6Replay
          else .region6
        else .walk

/-- What a source other than the walk answers. -/
def answerFromSource (cpu : CPUState) (virtualAddress : UInt64) (accessType : MemoryAccessType) :
    DataSource → Option (Except TranslationException IA64AddressTranslation) :=
  let rid := regionIdOf (cpu.getRR (regionOf virtualAddress))
  let regionOffset := virtualAddress &&& kRegionOffsetMask
  fun
  | .physical => some (.ok {
      physicalAddress := virtualAddress, pageSize := (1 : UInt64) <<< 61, regionId := 0,
      memoryAttribute := 0, accessRights := 3, mechanism := .PHYSICAL_MODE })
  | .register i =>
      some (answerFromEntry (getElem cpu.dtr i (fin_lt_256 i)) virtualAddress rid (cplOf cpu.psr) accessType
        .TRANSLATION_REGISTER)
  | .tlb i => some (answerFromEntry (getElem cpu.dtlb i (fin_lt_64 i)) virtualAddress rid (cplOf cpu.psr) accessType .DATA_TLB)
  | .perCpu => some (.ok {
      physicalAddress := ((cpu.getAR 3 - kPerCpuPageSize) &&& kIa64PhysicalAddressMask) +
        (virtualAddress - kPerCpuVirtualBase)
      pageSize := kPerCpuPageSize, regionId := rid, memoryAttribute := 0, accessRights := 3,
      mechanism := .REGION7_IDENTITY })
  | .region7 => some (.ok {
      physicalAddress := regionOffset, pageSize := (1 : UInt64) <<< 61, regionId := rid,
      memoryAttribute := 0, accessRights := 3, mechanism := .REGION7_IDENTITY })
  | .region6Replay => some (.ok {
      physicalAddress := virtualAddress - kRegion6ReplayVirtualBase, pageSize := (1 : UInt64) <<< 61,
      regionId := rid, memoryAttribute := 4, accessRights := 3, mechanism := .REGION6_IDENTITY })
  | .region6 => some (.ok {
      physicalAddress := regionOffset, pageSize := (1 : UInt64) <<< 61, regionId := rid,
      memoryAttribute := 4, accessRights := 3, mechanism := .REGION6_IDENTITY })
  | .walk => none

section Sources
variable {M : Type _} [IMemory M] {cpu cpu' : CPUState} {memory : M} {va k rid : UInt64} {t : MemoryAccessType}
  {tr : IA64AddressTranslation} {source : List UInt8} {m : IA64TranslationMechanism} {addresses : List UInt64}
  {s : DataSource} {e : TranslationRegisterState} {l : Located} {memoryAttribute : UInt8}

/-- **Translation by source.** -/
theorem translateDataAddress_eq (cpu : CPUState) (memory : M) (va : UInt64) (t : MemoryAccessType) :
    translateDataAddress cpu memory va t =
      match answerFromSource cpu va t (dataSource cpu va) with
      | some answer => answer.map (·, cpu)
      | none => checkVhptEnabled cpu va t >>= fun _ => walkShortVhpt cpu memory va t := by
  unfold translateDataAddress dataSource
  simp only [Bool.false_eq_true, if_false, Bool.not_false, Bool.true_and]
  by_cases hphysical : (cpu.psr &&& (1 : UInt64) <<< 17 == 0) = true
  · rw [if_pos hphysical, if_pos hphysical]
    rfl
  rw [if_neg hphysical, if_neg hphysical, translateFromDtrOrDtlb, tryEntries_eq, tryEntries_eq]
  cases firstCovering cpu.dtr va (regionIdOf (cpu.getRR (regionOf va))) with
  | some i =>
      cases answerFromEntry cpu.dtr[i] va (regionIdOf (cpu.getRR (regionOf va))) (cplOf cpu.psr) t
        .TRANSLATION_REGISTER <;> rfl
  | none =>
  cases firstCovering cpu.dtlb va (regionIdOf (cpu.getRR (regionOf va))) with
  | some i =>
      cases answerFromEntry cpu.dtlb[i] va (regionIdOf (cpu.getRR (regionOf va))) (cplOf cpu.psr) t
        .DATA_TLB <;> rfl
  | none =>
  unfold identityAlias
  dsimp only [Option.map_none, Option.none_or]
  by_cases hperCpu : kPerCpuVirtualBase ≤ va ∧ va - kPerCpuVirtualBase < kPerCpuVirtualSpan
  · simp only [if_pos hperCpu]
    rfl
  by_cases hregion7 : va >>> 61 = 7
  · simp only [if_neg hperCpu, if_pos hregion7]
    rfl
  by_cases hregion6 : va >>> 61 = 6
  · by_cases hreplay : kRegion6ReplayVirtualBase ≤ va ∧ va - kRegion6ReplayVirtualBase < kRegion6ReplayVirtualSpan
    · simp only [if_neg hperCpu, if_neg hregion7, if_pos hregion6, if_pos hreplay]
      rfl
    · simp only [if_neg hperCpu, if_neg hregion7, if_pos hregion6, if_neg hreplay]
      rfl
  · simp only [if_neg hperCpu, if_neg hregion7, if_neg hregion6]
    rfl

/-! ## The next byte -/

/-- The bytes of a page that lie before a byte of it. -/
theorem and_pageSize_toNat (hk : k.toNat < 64) (va : UInt64) :
    (va &&& ((1 : UInt64) <<< k - 1)).toNat = va.toNat % 2 ^ k.toNat := and_lowMask_toNat hk va

theorem roomAt_eq (hk : k.toNat < 64) (hsize : tr.pageSize = (1 : UInt64) <<< k) (va : UInt64) :
    tr.roomAt va = 2 ^ k.toNat - va.toNat % 2 ^ k.toNat := by
  have hle : (va &&& (tr.pageSize - 1)) ≤ tr.pageSize := by
    rw [UInt64.le_iff_toNat_le, hsize, and_pageSize_toNat hk, one_shiftLeft_toNat hk]
    exact (Nat.mod_lt _ (Nat.two_pow_pos _)).le
  unfold IA64AddressTranslation.roomAt
  rw [UInt64.toNat_sub_of_le _ _ hle, hsize, and_pageSize_toNat hk, one_shiftLeft_toNat hk]

/-- A page base and an offset inside the page. -/
theorem or_lowMask_toNat (hk : k.toNat < 64) (x va : UInt64) :
    ((x &&& ~~~lowMask k) ||| (va &&& lowMask k)).toNat =
      x.toNat / 2 ^ k.toNat * 2 ^ k.toNat + va.toNat % 2 ^ k.toNat := by
  rw [UInt64.toNat_or, and_not_lowMask_toNat hk, and_lowMask_toNat hk, Nat.mul_comm,
    ← Nat.two_pow_add_eq_or_of_lt (Nat.mod_lt _ (Nat.two_pow_pos _))]

/-- The byte after one that is not the last of its page. -/
structure NextInPage (k : Nat) (va : UInt64) : Prop where
  le : k ≤ 61
  inside : va.toNat % 2 ^ k + 1 < 2 ^ k

namespace NextInPage
variable {k : Nat}
variable (h : NextInPage k va)
include h

theorem succ_toNat : (va + 1).toNat = va.toNat + 1 := by
  have hdvd : 2 ^ 64 = 2 ^ k * 2 ^ (64 - k) := by
    rw [← Nat.pow_add, Nat.add_sub_cancel' (h.le.trans (by decide))]
  have hlt : va.toNat + 1 < 2 ^ 64 := by
    have hdiv := Nat.div_add_mod va.toNat (2 ^ k)
    have hva : va.toNat < 2 ^ k * 2 ^ (64 - k) := hdvd ▸ va.toNat_lt
    have hq : va.toNat / 2 ^ k < 2 ^ (64 - k) := Nat.div_lt_of_lt_mul hva
    have hmul : 2 ^ k * (va.toNat / 2 ^ k + 1) ≤ 2 ^ k * 2 ^ (64 - k) := Nat.mul_le_mul_left _ hq
    have hin := h.inside
    rw [Nat.mul_add, Nat.mul_one] at hmul
    omega
  rw [UInt64.toNat_add, UInt64.toNat_one, Nat.mod_eq_of_lt hlt]

theorem div_succ : (va + 1).toNat / 2 ^ k = va.toNat / 2 ^ k := by
  rw [h.succ_toNat]
  have hdiv := Nat.div_add_mod va.toNat (2 ^ k)
  have hin := h.inside
  refine Nat.div_eq_of_lt_le ?_ ?_
  · rw [Nat.mul_comm]
    omega
  · rw [Nat.mul_comm, Nat.mul_add, Nat.mul_one]
    omega

theorem mod_succ : (va + 1).toNat % 2 ^ k = va.toNat % 2 ^ k + 1 := by
  have hdiv := Nat.div_add_mod va.toNat (2 ^ k)
  have hdiv' := Nat.div_add_mod (va + 1).toNat (2 ^ k)
  rw [h.div_succ, h.succ_toNat] at hdiv'
  rw [h.succ_toNat]
  omega

/-- It lies in the same region, and in the same page of every larger size. -/
theorem mono {k' : Nat} (hle : k ≤ k') (hle' : k' ≤ 61) : NextInPage k' va := by
  refine ⟨hle', ?_⟩
  have hlt := Nat.mod_lt va.toNat (Nat.two_pow_pos k')
  by_contra hge
  have hlast : va.toNat % 2 ^ k' + 1 = 2 ^ k' := by omega
  have hdvd : 2 ^ k ∣ 2 ^ k' := Nat.pow_dvd_pow 2 hle
  have hmod : va.toNat % 2 ^ k = va.toNat % 2 ^ k' % 2 ^ k := (Nat.mod_mod_of_dvd _ hdvd).symm
  obtain ⟨c, hc⟩ := hdvd
  have hval : va.toNat % 2 ^ k' = 2 ^ k * (c - 1) + (2 ^ k - 1) := by
    have hcpos : 0 < c := by
      rcases Nat.eq_zero_or_pos c with rfl | hpos
      · rw [Nat.mul_zero] at hc
        exact absurd hc (Nat.two_pow_pos k').ne'
      · exact hpos
    have hsplit : 2 ^ k * c = 2 ^ k * (c - 1) + 2 ^ k := by
      rw [← Nat.mul_succ, Nat.succ_eq_add_one, Nat.sub_add_cancel hcpos]
    have hpos := Nat.two_pow_pos k
    omega
  have hin := h.inside
  rw [hmod, hval, Nat.mul_add_mod, Nat.mod_eq_of_lt (Nat.sub_lt (Nat.two_pow_pos k) Nat.one_pos)] at hin
  omega

theorem region_eq : (va + 1) >>> 61 = va >>> 61 := by
  have h61 := (h.mono h.le (Nat.le_refl 61)).div_succ
  refine UInt64.toNat_inj.mp ?_
  have hshift : ∀ x : UInt64, (x >>> 61).toNat = x.toNat / 2 ^ 61 := fun x => by
    rw [UInt64.toNat_shiftRight, Nat.shiftRight_eq_div_pow]
    rfl
  rw [hshift, hshift, h61]

end NextInPage

/-- What an answer for `va` says of the page it lies in: the size, that there is memory behind it, and the answer
    for the next byte of the page. -/
structure AnswersPage (cpu : CPUState) (va : UInt64) (t : MemoryAccessType) (s : DataSource)
    (tr : IA64AddressTranslation) (k : UInt64) : Prop where
  le : k.toNat ≤ 61
  pageSize_eq : tr.pageSize = (1 : UInt64) <<< k
  bounded : tr.physicalAddress.toNat + (2 ^ k.toNat - va.toNat % 2 ^ k.toNat) ≤ 2 ^ 64
  next : NextInPage k.toNat va → ∃ tr', answerFromSource cpu (va + 1) t s = some (.ok tr') ∧
    tr'.physicalAddress = tr.physicalAddress + 1 ∧ tr'.pageSize = tr.pageSize

theorem regionOf_succ {k : Nat} (h : NextInPage k va) : regionOf (va + 1) = regionOf va := by
  rw [regionOf, regionOf, h.region_eq]

theorem regionOffset_toNat (va : UInt64) : (va &&& kRegionOffsetMask).toNat = va.toNat % 2 ^ 61 :=
  and_lowMask_toNat (k := 61) (by decide) va

theorem succ_eq {x y : UInt64} (h : y.toNat = x.toNat + 1) : y = x + 1 := by
  refine UInt64.toNat_inj.mp ?_
  rw [UInt64.toNat_add, UInt64.toNat_one, Nat.mod_eq_of_lt (by have := y.toNat_lt; omega), h]

theorem page61_le (va : UInt64) : va.toNat + (2 ^ 61 - va.toNat % 2 ^ 61) ≤ 2 ^ 64 := by
  have hlt := va.toNat_lt
  omega

/-- The fixed aliases and physical mode, whose pages have a fixed size. -/
theorem answersPage_physical :
    AnswersPage cpu va t .physical ⟨va, (1 : UInt64) <<< 61, 0, 0, 3, .PHYSICAL_MODE⟩ 61 :=
  ⟨by decide, rfl, page61_le va, fun _ => ⟨_, rfl, rfl, rfl⟩⟩

theorem answersPage_region (h : ∀ va' : UInt64, regionOf va' = regionOf va → answerFromSource cpu va' t s =
      some (.ok ⟨va' &&& kRegionOffsetMask, (1 : UInt64) <<< 61, rid, memoryAttribute, 3, m⟩)) :
    AnswersPage cpu va t s ⟨va &&& kRegionOffsetMask, (1 : UInt64) <<< 61, rid, memoryAttribute, 3, m⟩ 61 := by
  refine ⟨by decide, rfl, ?_, fun hnext => ⟨_, h (va + 1) (regionOf_succ hnext), ?_, rfl⟩⟩
  · show (va &&& kRegionOffsetMask).toNat + (2 ^ 61 - va.toNat % 2 ^ 61) ≤ 2 ^ 64
    rw [regionOffset_toNat]
    omega
  · refine succ_eq ?_
    show ((va + 1) &&& kRegionOffsetMask).toNat = (va &&& kRegionOffsetMask).toNat + 1
    rw [regionOffset_toNat, regionOffset_toNat]
    exact hnext.mod_succ

/-- A window onto `base`, with pages of `2 ^ k` bytes. -/
theorem answersPage_window {base windowBase span : UInt64}
    (h : ∀ va' : UInt64, regionOf va' = regionOf va → answerFromSource cpu va' t s =
      some (.ok ⟨base + (va' - windowBase), (1 : UInt64) <<< k, rid, memoryAttribute, 3, m⟩)) (hk : k.toNat ≤ 61)
    (hbase : base.toNat < 2 ^ 61) (hspan : span.toNat < 2 ^ 61) (hwindow : va - windowBase < span) :
    AnswersPage cpu va t s ⟨base + (va - windowBase), (1 : UInt64) <<< k, rid, memoryAttribute, 3, m⟩ k := by
  refine ⟨hk, rfl, ?_, fun hnext => ⟨_, h (va + 1) (regionOf_succ hnext), ?_, rfl⟩⟩
  · show (base + (va - windowBase)).toNat + (2 ^ k.toNat - va.toNat % 2 ^ k.toNat) ≤ 2 ^ 64
    have hoffset := UInt64.lt_iff_toNat_lt.mp hwindow
    have hpage : 2 ^ k.toNat ≤ 2 ^ 61 := Nat.pow_le_pow_right (by decide) hk
    rw [UInt64.toNat_add, Nat.mod_eq_of_lt (by omega)]
    omega
  · show base + (va + 1 - windowBase) = base + (va - windowBase) + 1
    grind

/-- An entry that answers for one address of its page answers for all of them. -/
theorem answerFromEntry_ok {cpl : UInt64} (h : answerFromEntry e va rid cpl t m = .ok tr) (va' : UInt64) :
    answerFromEntry e va' rid cpl t m = .ok { tr with
      physicalAddress := ((e.physicalAddress &&& kIa64PhysicalAddressMask) &&& ~~~lowMask (pageShiftOf e.itir)) |||
        (va' &&& lowMask (pageShiftOf e.itir)) } ∧
    tr.physicalAddress = ((e.physicalAddress &&& kIa64PhysicalAddressMask) &&& ~~~lowMask (pageShiftOf e.itir)) |||
      (va &&& lowMask (pageShiftOf e.itir)) ∧
    tr.pageSize = (1 : UInt64) <<< pageShiftOf e.itir := by
  unfold answerFromEntry at h ⊢
  dsimp only at h ⊢
  split at h
  · cases h
  next hpresent =>
  split at h
  · cases h
  next hpermission =>
  rw [if_neg hpresent, if_neg hpermission]
  obtain rfl := Except.ok.inj h
  exact ⟨rfl, rfl, rfl⟩

theorem answersPage_entry {cpl : UInt64} (hk : ValidPageShift (pageShiftOf e.itir))
    (h : ∀ va' : UInt64, regionOf va' = regionOf va →
      answerFromSource cpu va' t s = some (answerFromEntry e va' rid cpl t m))
    (hok : answerFromEntry e va rid cpl t m = .ok tr) : AnswersPage cpu va t s tr (pageShiftOf e.itir) := by
  have hle : (pageShiftOf e.itir).toNat ≤ 61 := UInt64.le_iff_toNat_le.mp (UInt64.not_lt.mp (not_or.mp hk).2)
  obtain ⟨_, hphysical, hsize⟩ := answerFromEntry_ok hok va
  refine ⟨hle, hsize, ?_, fun hnext => ?_⟩
  · have hbase : (e.physicalAddress &&& kIa64PhysicalAddressMask).toNat < 2 ^ 50 := by
      rw [show kIa64PhysicalAddressMask = lowMask 50 from rfl, and_lowMask_toNat (by decide)]
      exact Nat.mod_lt _ (Nat.two_pow_pos _)
    have hpage : 2 ^ (pageShiftOf e.itir).toNat ≤ 2 ^ 61 := Nat.pow_le_pow_right (by decide) hle
    have hdown := Nat.div_mul_le_self (e.physicalAddress &&& kIa64PhysicalAddressMask).toNat
      (2 ^ (pageShiftOf e.itir).toNat)
    have hmod := Nat.mod_lt va.toNat (Nat.two_pow_pos (pageShiftOf e.itir).toNat)
    rw [hphysical, or_lowMask_toNat hk.toNat_lt]
    omega
  · obtain ⟨hok', _, _⟩ := answerFromEntry_ok hok (va + 1)
    refine ⟨_, (h (va + 1) (regionOf_succ hnext)).trans (congrArg some hok'), ?_, rfl⟩
    refine succ_eq ?_
    show _ = tr.physicalAddress.toNat + 1
    rw [hphysical, or_lowMask_toNat hk.toNat_lt, or_lowMask_toNat hk.toNat_lt, hnext.mod_succ, Nat.add_assoc]

/-! ## What answered -/

theorem validPageShift_of_firstCovering {n : Nat} {entries : Vector TranslationRegisterState n} {i : Fin n}
    (h : firstCovering entries va rid = some i) : ValidPageShift (pageShiftOf (getElem entries i i.isLt).itir) := by
  have hcovers : translationEntryCovers entries[i] va rid = true :=
    List.find?_some (p := fun i : Fin n => translationEntryCovers entries[i] va rid) h
  exact (translationEntryCovers_iff.mp hcovers).2.2.1

/-- What a source says of an address it answers for. -/
def SourceHolds (cpu : CPUState) (va : UInt64) : DataSource → Prop
  | .register i => ValidPageShift (pageShiftOf (getElem cpu.dtr i (fin_lt_256 i)).itir)
  | .tlb i => ValidPageShift (pageShiftOf (getElem cpu.dtlb i (fin_lt_64 i)).itir)
  | .perCpu => va - kPerCpuVirtualBase < kPerCpuVirtualSpan
  | .region6Replay => va - kRegion6ReplayVirtualBase < kRegion6ReplayVirtualSpan
  | .physical | .region7 | .region6 | .walk => True

theorem sourceHolds (cpu : CPUState) (va : UInt64) : SourceHolds cpu va (dataSource cpu va) := by
  unfold dataSource
  dsimp only
  split
  · trivial
  split
  · next i hdtr => exact validPageShift_of_firstCovering hdtr
  split
  · next i hdtlb => exact validPageShift_of_firstCovering hdtlb
  split
  · next hperCpu => exact hperCpu.2
  split
  · trivial
  split
  · split
    · next hreplay => exact hreplay.2
    · trivial
  · trivial

/-- **Every answer is good for the rest of its page**, as far as the source goes. -/
theorem answersPage (hs : dataSource cpu va = s) (h : answerFromSource cpu va t s = some (.ok tr)) :
    ∃ k, AnswersPage cpu va t s tr k := by
  have hspec := sourceHolds cpu va
  rw [hs] at hspec
  have hrid : ∀ va' : UInt64, regionOf va' = regionOf va →
      regionIdOf (cpu.getRR (regionOf va')) = regionIdOf (cpu.getRR (regionOf va)) := fun va' heq => by rw [heq]
  cases s with
  | physical =>
      obtain rfl := Except.ok.inj (Option.some.inj h)
      exact ⟨61, answersPage_physical⟩
  | register i =>
      refine ⟨_, answersPage_entry hspec (fun va' heq => ?_) (Option.some.inj h)⟩
      exact congrArg (fun rid => some (answerFromEntry cpu.dtr[i] va' rid _ t _)) (hrid va' heq)
  | tlb i =>
      refine ⟨_, answersPage_entry hspec (fun va' heq => ?_) (Option.some.inj h)⟩
      exact congrArg (fun rid => some (answerFromEntry cpu.dtlb[i] va' rid _ t _)) (hrid va' heq)
  | perCpu =>
      obtain rfl := Except.ok.inj (Option.some.inj h)
      refine ⟨18, answersPage_window (fun va' heq => ?_) (by decide) ?_ (by decide) hspec⟩
      · exact congrArg (fun rid => some (Except.ok (IA64AddressTranslation.mk _ _ rid 0 3 _))) (hrid va' heq)
      · rw [show kIa64PhysicalAddressMask = lowMask 50 from rfl, and_lowMask_toNat (by decide)]
        exact lt_of_lt_of_le (Nat.mod_lt _ (Nat.two_pow_pos _)) (by decide)
  | region7 =>
      obtain rfl := Except.ok.inj (Option.some.inj h)
      refine ⟨61, answersPage_region fun va' heq => ?_⟩
      exact congrArg (fun rid => some (Except.ok (IA64AddressTranslation.mk _ _ rid 0 3 _))) (hrid va' heq)
  | region6Replay =>
      obtain rfl := Except.ok.inj (Option.some.inj h)
      have hwindow : AnswersPage cpu va t .region6Replay ⟨0 + (va - kRegion6ReplayVirtualBase), (1 : UInt64) <<< 61,
          regionIdOf (cpu.getRR (regionOf va)), 4, 3, .REGION6_IDENTITY⟩ 61 := by
        refine answersPage_window (fun va' heq => ?_) (by decide) (by decide) (by decide) hspec
        rw [UInt64.zero_add]
        exact congrArg (fun rid => some (Except.ok (IA64AddressTranslation.mk _ _ rid 4 3 _))) (hrid va' heq)
      rw [UInt64.zero_add] at hwindow
      exact ⟨61, hwindow⟩
  | region6 =>
      obtain rfl := Except.ok.inj (Option.some.inj h)
      refine ⟨61, answersPage_region fun va' heq => ?_⟩
      exact congrArg (fun rid => some (Except.ok (IA64AddressTranslation.mk _ _ rid 4 3 _))) (hrid va' heq)
  | walk => cases h

theorem mechanism_of_walk (h : walkShortVhpt cpu memory va t = .ok (tr, cpu')) : tr.mechanism = .SHORT_VHPT := by
  obtain ⟨⟨pte, hash⟩, _, h⟩ := bind_eq_ok.mp h
  obtain ⟨⟨⟩, _, h⟩ := bind_eq_ok.mp h
  obtain ⟨cpu₁, _, h⟩ := bind_eq_ok.mp h
  rw [← (Prod.mk.inj (Except.ok.inj h)).1]
  rfl

/-- What the walk did not translate, a source answered, and the processor is unchanged. -/
theorem answered_of_mechanism (h : translateDataAddress cpu memory va t = .ok (tr, cpu'))
    (hmech : tr.mechanism ≠ .SHORT_VHPT) :
    answerFromSource cpu va t (dataSource cpu va) = some (.ok tr) ∧ cpu' = cpu := by
  rw [translateDataAddress_eq] at h
  cases hanswer : answerFromSource cpu va t (dataSource cpu va) with
  | none =>
      rw [hanswer] at h
      obtain ⟨⟨⟩, _, hwalk⟩ := bind_eq_ok.mp h
      exact absurd (mechanism_of_walk hwalk) hmech
  | some answer =>
      rw [hanswer] at h
      obtain ⟨tr', rfl, heq⟩ := map_eq_ok.mp h
      cases heq
      exact ⟨rfl, rfl⟩

theorem accessRecorded_of_check {pte hash cpl : UInt64} (h : checkVhptEntry pte va hash cpl t = .ok ()) :
    AccessRecorded pte t := by
  unfold checkVhptEntry at h
  dsimp only at h
  split at h
  · cases h
  split at h
  · cases h
  next haccessed =>
  split at h
  · cases h
  next hdirty =>
  constructor
  · by_contra hnot
    rw [not_or] at hnot
    exact haccessed ⟨hnot.1, by simpa using hnot.2⟩
  · intro hwrite
    by_contra hnot
    exact hdirty ⟨hwrite, by simpa using hnot⟩

/-- **A translation settles.** In the state it leaves, a source answers for the same address with the same page:
    after a walk that is the entry the walk put into the data TLB. -/
theorem translate_settles (h : translateDataAddress cpu memory va t = .ok (tr, cpu')) :
    ∃ tr', answerFromSource cpu' va t (dataSource cpu' va) = some (.ok tr') ∧
      tr'.physicalAddress = tr.physicalAddress ∧ tr'.pageSize = tr.pageSize := by
  by_cases hmech : tr.mechanism = .SHORT_VHPT
  · obtain ⟨hreach, hwalked⟩ := reachesWalk_of_translate h hmech
    have hk := validPageShift_of_enabled hreach.enabled
    obtain ⟨pte, hash, hread, hpresent, s, cursor, hcpu⟩ := walk_inv hwalked hk
    have hcheck : checkVhptEntry pte va hash (cplOf cpu.psr) t = .ok () := by
      obtain ⟨cpu₁, hwalk⟩ := walk_of_entry hread hk
      rw [hwalk] at hwalked
      obtain ⟨⟨⟩, hcheck, _⟩ := map_eq_ok.mp hwalked
      exact hcheck
    have hagain : translateDataAddress cpu' memory va t = _ := translate_after_walk hreach hcpu t
    have hsame : SameOutcome (translateDataAddress cpu' memory va t) (translateDataAddress cpu memory va t) :=
      (sameOutcome_after_walk hreach hread hpresent hcpu t).mpr (accessRecorded_of_check hcheck)
    rw [h, hagain] at hsame
    cases hanswer : answerFromEntry (insertedEntry pte va (vhptItir (cpu.getRR (regionOf va)))
        (cpu.getRR (regionOf va))) va (regionIdOf (cpu.getRR (regionOf va))) (cplOf cpu.psr) t .DATA_TLB with
    | error e =>
        rw [hanswer] at hsame
        cases e <;> exact hsame.elim
    | ok tr' =>
        rw [hanswer] at hsame hagain
        have htlb : tr'.mechanism ≠ .SHORT_VHPT := by
          rw [mechanism_of_answer hanswer]
          decide
        exact ⟨tr', (answered_of_mechanism hagain htlb).1, hsame.1, hsame.2.1⟩
  · obtain ⟨hanswer, rfl⟩ := answered_of_mechanism h hmech
    exact ⟨tr, hanswer, rfl, rfl⟩

/-! ## Pages of one source -/

/-- **No page is left to another source halfway.** Each byte after the first begins a page of the translation of the
    byte before it, or is answered by the same source as that byte. -/
def SameSources (memory : M) (t : MemoryAccessType) : CPUState → UInt64 → Nat → Prop
  | _, _, 0 => True
  | cpu, a, n + 1 => ∀ tr cpu', translateDataAddress cpu memory a t = .ok (tr, cpu') →
      (n = 0 ∨ tr.roomAt a = 1 ∨ dataSource cpu' (a + 1) = dataSource cpu' a) ∧
        SameSources memory t cpu' (a + 1) n

theorem locateData_ok (h : locateData memory t cpu va = .ok (l, cpu')) :
    ∃ tr, translateDataAddress cpu memory va t = .ok (tr, cpu') ∧ l = ⟨tr.physicalAddress, tr.roomAt va⟩ := by
  obtain ⟨⟨tr, cpu₁⟩, htr, heq⟩ := map_eq_ok.mp h
  obtain ⟨rfl, rfl⟩ := Prod.mk.inj heq
  exact ⟨tr, htr, rfl⟩

/-- There is room for the byte itself, and memory addresses for all the room. -/
theorem located_room (h : locateData memory t cpu va = .ok (l, cpu')) :
    0 < l.room ∧ l.target.toNat + l.room ≤ 2 ^ 64 := by
  obtain ⟨tr, htr, rfl⟩ := locateData_ok h
  obtain ⟨tr', hanswer, hphysical, hsize⟩ := translate_settles htr
  obtain ⟨k, hpage⟩ := answersPage rfl hanswer
  have hk : k.toNat < 64 := lt_of_le_of_lt hpage.le (by decide)
  have hbounded := hpage.bounded
  rw [hphysical] at hbounded
  have hroom := roomAt_eq hk (hsize.symm.trans hpage.pageSize_eq) va
  have hmod := Nat.mod_lt va.toNat (Nat.two_pow_pos k.toNat)
  constructor
  · show 0 < tr.roomAt va
    omega
  · show tr.physicalAddress.toNat + tr.roomAt va ≤ 2 ^ 64
    rw [hroom]
    exact hbounded

/-- **The next byte of a page**, answered by the source of the page. -/
theorem locateData_succ (h : translateDataAddress cpu memory va t = .ok (tr, cpu')) (hroom : tr.roomAt va ≠ 1)
    (hsource : dataSource cpu' (va + 1) = dataSource cpu' va) :
    locateData memory t cpu' (va + 1) = .ok (⟨tr.physicalAddress + 1, tr.roomAt va - 1⟩, cpu') := by
  obtain ⟨tr', hanswer, hphysical, hsize⟩ := translate_settles h
  obtain ⟨k, hpage⟩ := answersPage rfl hanswer
  have hk : k.toNat < 64 := lt_of_le_of_lt hpage.le (by decide)
  have hsize₁ : tr.pageSize = (1 : UInt64) <<< k := hsize.symm.trans hpage.pageSize_eq
  have hroom₁ := roomAt_eq hk hsize₁ va
  have hmod := Nat.mod_lt va.toNat (Nat.two_pow_pos k.toNat)
  have hnext : NextInPage k.toNat va := ⟨hpage.le, by omega⟩
  obtain ⟨tr₂, hanswer₂, hphysical₂, hsize₂⟩ := hpage.next hnext
  rw [← hsource] at hanswer₂
  have hroom₂ := roomAt_eq hk (hsize₂.trans hpage.pageSize_eq) (va + 1)
  have htr₂ : translateDataAddress cpu' memory (va + 1) t = .ok (tr₂, cpu') := by
    rw [translateDataAddress_eq, hanswer₂]
    rfl
  have hlast : tr₂.roomAt (va + 1) = tr.roomAt va - 1 := by
    rw [hroom₂, hroom₁, hnext.mod_succ]
    omega
  rw [locateData, htr₂, Except.map, hphysical₂, hphysical, hlast]

/-- **Pages of one source are seamless.** -/
theorem seamless_of_sameSources {n : Nat} (h : SameSources memory t cpu va n) :
    Seamless (locateData memory t) cpu va n := by
  induction n generalizing cpu va with
  | zero => trivial
  | succ n ih =>
      intro l cpu' hl
      obtain ⟨tr, htr, rfl⟩ := locateData_ok hl
      obtain ⟨hnext, hrest⟩ := h tr cpu' htr
      refine ⟨?_, ih hrest⟩
      rcases hnext with hlast | hone | hsource
      · exact .inl hlast
      · exact .inr (.inl hone)
      · by_cases hone : tr.roomAt va = 1
        · exact .inr (.inl hone)
        · exact .inr (.inr (locateData_succ htr hone hsource))

/-! ## Loads -/

theorem locateData_error {e : TranslationException} (h : translateDataAddress cpu memory va t = .error e) :
    locateData memory t cpu va = .error e := by
  rw [locateData, h]
  rfl

theorem locateData_of_ok (h : translateDataAddress cpu memory va t = .ok (tr, cpu')) :
    locateData memory t cpu va = .ok (⟨tr.physicalAddress, tr.roomAt va⟩, cpu') := by
  rw [locateData, h]
  rfl

/-- What reading addresses one after another gives, in two parts. -/
theorem readEach_append_eq_some {l l' : List UInt64} {bytes : List UInt8} :
    readEach memory (l ++ l') = some bytes ↔
      ∃ first rest, readEach memory l = some first ∧ readEach memory l' = some rest ∧ first ++ rest = bytes := by
  rw [readEach_append]
  simp [Option.bind_eq_some_iff, Option.map_eq_some_iff]

theorem readNothing (bytes : List UInt8) : (Except.ok [] : Except DataAccessException (List UInt8)) = .ok bytes ↔
    ∃ addresses cpu', each (locateData memory .READ) cpu va 0 = .ok (addresses, cpu') ∧
      readEach memory addresses = some bytes := by
  constructor
  · intro h
    obtain rfl := Except.ok.inj h
    exact ⟨[], cpu, rfl, rfl⟩
  · rintro ⟨addresses, cpu', heach, hread⟩
    obtain ⟨rfl, rfl⟩ := Prod.mk.inj (Except.ok.inj heach)
    exact congrArg Except.ok (Option.some.inj hread)

/-- **The loop of a load**, over a seamless range. -/
theorem readDataLoop_spec [BytewiseMemory M] {fuel n : Nat} (hfuel : n ≤ fuel)
    (hseam : Seamless (locateData memory .READ) cpu va n) (bytes : List UInt8) :
    (readDataLoop memory fuel cpu va n).1 = .ok bytes ↔
      ∃ addresses cpu', each (locateData memory .READ) cpu va n = .ok (addresses, cpu') ∧
        readEach memory addresses = some bytes := by
  induction fuel generalizing cpu va n bytes with
  | zero =>
      obtain rfl : n = 0 := Nat.le_zero.mp hfuel
      exact readNothing bytes
  | succ fuel ih =>
      rw [readDataLoop]
      rcases Nat.eq_zero_or_pos n with rfl | hpos
      · rw [if_pos rfl]
        exact readNothing bytes
      rw [if_neg hpos.ne']
      obtain ⟨m, rfl⟩ : ∃ m, n = m + 1 := ⟨n - 1, by omega⟩
      cases htr : translateDataAddress cpu memory va .READ with
      | error e =>
          rw [each_of_error (locateData_error htr)]
          constructor
          · intro h
            cases h
          · rintro ⟨_, _, h, _⟩
            cases h
      | ok r =>
          obtain ⟨tr, cpu₁⟩ := r
          have hl := locateData_of_ok htr
          obtain ⟨hroom, hbounded⟩ := located_room hl
          dsimp only at hroom hbounded ⊢
          -- one stretch of the loop is as many single translations, all in the page of the first
          generalize hamount : min (m + 1) (tr.roomAt va) = amount
          obtain ⟨heach, hrest⟩ := each_stretch hl hseam (k := amount) (by omega) (by omega)
            (by show amount ≤ tr.roomAt va; omega)
          have hbytes : (IMemory.read memory tr.physicalAddress amount).toOption = _ :=
            BytewiseMemory.read_eq memory (by omega)
          have hloop := fun rest => ih (by omega) hrest rest
          cases hread : IMemory.read memory tr.physicalAddress amount with
          | error what =>
              rw [hread] at hbytes
              constructor
              · intro h
                cases h
              · rintro ⟨addresses, cpu', h, hall⟩
                rw [heach] at h
                obtain ⟨r, _, hr⟩ := map_eq_ok.mp h
                obtain ⟨rfl, rfl⟩ := Prod.mk.inj hr
                obtain ⟨first, _, hfirst, _⟩ := readEach_append_eq_some.mp hall
                rw [← hbytes] at hfirst
                cases hfirst
          | ok first =>
              rw [hread] at hbytes
              constructor
              · intro h
                obtain ⟨rest, hrestOk, rfl⟩ := map_eq_ok.mp h
                obtain ⟨addresses, cpu', heach', hread'⟩ := (hloop rest).mp hrestOk
                refine ⟨consecutive tr.physicalAddress amount ++ addresses, cpu', ?_,
                  readEach_append_eq_some.mpr ⟨first, rest, hbytes.symm, hread', rfl⟩⟩
                rw [heach, heach']
                rfl
              · rintro ⟨addresses, cpu', h, hall⟩
                rw [heach] at h
                obtain ⟨⟨addresses', cpu₂⟩, heach', hr⟩ := map_eq_ok.mp h
                obtain ⟨rfl, rfl⟩ := Prod.mk.inj hr
                obtain ⟨first', rest, hfirst, hread', rfl⟩ := readEach_append_eq_some.mp hall
                obtain rfl : first = first' := Option.some.inj (hbytes.trans hfirst)
                exact map_eq_ok.mpr ⟨rest, (hloop rest).mpr ⟨addresses', cpu₂, heach', hread'⟩, rfl⟩

/-- **Loads** over pages of one source are bytewise. -/
theorem readsBytewise_of_sameSources [BytewiseMemory M] {size : Nat} (h : SameSources memory .READ cpu va size) :
    ReadsBytewise cpu memory va size := fun bytes =>
  readDataLoop_spec (Nat.le_refl size) (seamless_of_sameSources h) bytes

/-! ## Stores -/

/-- Nothing that is stored changes how a later byte of the store is translated. -/
def Undisturbed (memory₀ : M) : M → CPUState → UInt64 → List UInt8 → Prop
  | _, _, _, [] => True
  | memory, cpu, a, b :: bs =>
      translateDataAddress cpu memory a .WRITE = translateDataAddress cpu memory₀ a .WRITE ∧
        ∀ tr cpu' memory', translateDataAddress cpu memory₀ a .WRITE = .ok (tr, cpu') →
          IMemory.write memory tr.physicalAddress [b] = .ok memory' → Undisturbed memory₀ memory' cpu' (a + 1) bs

/-- The first page faults, so nothing is stored. -/
def FaultsFirst (cpu : CPUState) (memory : M) (va : UInt64) (source : List UInt8) : Prop :=
  match translateDataAddress cpu memory va .WRITE with
  | .error _ => True
  | .ok (tr, _) => (IMemory.write memory tr.physicalAddress
      (source.take (min source.length (tr.roomAt va)))).toOption = none

/-- No byte of the store faults. -/
def NeverFaults (cpu : CPUState) (memory : M) (va : UInt64) (source : List UInt8) : Prop :=
  ∃ addresses cpu' memory', each (locateData memory .WRITE) cpu va source.length = .ok (addresses, cpu') ∧
    writeEach memory (addresses.zip source) = some memory'

variable {memory₀ : M}

variable {memory' : M}

theorem undisturbed_stretch {k : Nat} (h : Undisturbed memory₀ memory cpu va source)
    (hl : locateData memory₀ .WRITE cpu va = .ok (l, cpu'))
    (hseam : Seamless (locateData memory₀ .WRITE) cpu va source.length) (hpos : 0 < k) (hkn : k ≤ source.length)
    (hroom : k ≤ l.room) (hwrite : writeEach memory ((consecutive l.target k).zip (source.take k)) = some memory') :
    Undisturbed memory₀ memory' cpu' (va + UInt64.ofNat k) (source.drop k) := by
  induction k generalizing cpu va l source memory with
  | zero => exact absurd hpos (Nat.lt_irrefl 0)
  | succ k ih =>
      cases source with
      | nil => exact absurd hkn (Nat.not_succ_le_zero k)
      | cons b bs =>
          obtain ⟨tr, htr, rfl⟩ := locateData_ok hl
          obtain ⟨hnext, hrest⟩ := hseam _ _ hl
          rw [consecutive, List.take_succ_cons, List.zip_cons_cons, writeEach] at hwrite
          obtain ⟨memory₁, hfirst, hwrite⟩ := Option.bind_eq_some_iff.mp hwrite
          have hfirst' : IMemory.write memory tr.physicalAddress [b] = .ok memory₁ := by
            cases hw : IMemory.write memory tr.physicalAddress [b] with
            | error e =>
                rw [hw] at hfirst
                cases hfirst
            | ok m =>
                rw [hw] at hfirst
                rw [Option.some.inj hfirst]
          have hundisturbed := h.2 tr cpu' memory₁ htr hfirst'
          rcases Nat.eq_zero_or_pos k with rfl | hk
          · obtain rfl := Option.some.inj hwrite
            exact hundisturbed
          · have hlast : k ≤ bs.length := Nat.le_of_succ_le_succ hkn
            have hfollows : locateData memory₀ .WRITE cpu' (va + 1) =
                .ok (⟨tr.physicalAddress + 1, tr.roomAt va - 1⟩, cpu') := by
              rcases hnext with hzero | hone | hfollows
              · omega
              · exact absurd hone (by show ¬ tr.roomAt va = 1; have := hroom; dsimp only at this; omega)
              · exact hfollows
            have hstretch := ih hundisturbed hfollows hrest hk hlast
              (by show k ≤ tr.roomAt va - 1; have := hroom; dsimp only at this; omega) hwrite
            have hadd : va + 1 + UInt64.ofNat k = va + UInt64.ofNat (k + 1) := by
              rw [UInt64.ofNat_add, UInt64.add_assoc, UInt64.add_comm 1]
              rfl
            rw [hadd] at hstretch
            exact hstretch

theorem zip_append_take {α β : Type _} {l l' : List α} {m : List β} (h : l.length ≤ m.length) :
    (l ++ l').zip m = l.zip (m.take l.length) ++ l'.zip (m.drop l.length) := by
  conv_lhs => rw [← List.take_append_drop l.length m]
  exact List.zip_append (by rw [List.length_take, min_eq_left h])

/-- **One stretch of a store**: the write of its bytes, and what is left. -/
theorem write_stretch [BytewiseMemory M] {target : UInt64} {amount : Nat} (hle : amount ≤ source.length)
    (hbounded : target.toNat + amount ≤ 2 ^ 64) :
    writeEach memory ((consecutive target amount ++ addresses).zip source) =
      (IMemory.write memory target (source.take amount)).toOption.bind fun memory₁ =>
        writeEach memory₁ (addresses.zip (source.drop amount)) := by
  have hlen : (source.take amount).length = amount := by rw [List.length_take, min_eq_left hle]
  have hbytes : (IMemory.write memory target (source.take amount)).toOption = _ :=
    BytewiseMemory.write_eq memory (by rw [hlen]; exact hbounded)
  rw [zip_append_take (by rw [length_consecutive]; exact hle), length_consecutive, writeEach_append, hbytes, hlen]

theorem writeNothing (heach : each (locateData memory₀ .WRITE) cpu va 0 = .ok (addresses, cpu'))
    (hwrite : writeEach memory (addresses.zip ([] : List UInt8)) = some memory') :
    ((.ok (), cpu, memory) : Except DataAccessException Unit × CPUState × M) = (.ok (), cpu', memory') := by
  obtain ⟨rfl, rfl⟩ := Prod.mk.inj (Except.ok.inj heach)
  obtain rfl := Option.some.inj hwrite
  rfl

/-- **The loop of a store** whose bytes all translate and are all accepted. -/
theorem writeDataLoop_spec [BytewiseMemory M] {fuel : Nat} (hfuel : source.length ≤ fuel)
    (hseam : Seamless (locateData memory₀ .WRITE) cpu va source.length)
    (hundisturbed : Undisturbed memory₀ memory cpu va source)
    (heach : each (locateData memory₀ .WRITE) cpu va source.length = .ok (addresses, cpu'))
    (hwrite : writeEach memory (addresses.zip source) = some memory') :
    writeDataLoop fuel cpu memory va source = (.ok (), cpu', memory') := by
  induction fuel generalizing cpu va source memory addresses with
  | zero =>
      obtain rfl : source = [] := List.length_eq_zero_iff.mp (Nat.le_zero.mp hfuel)
      exact writeNothing heach hwrite
  | succ fuel ih =>
      rw [writeDataLoop]
      by_cases hempty : source = []
      · subst hempty
        rw [if_pos rfl]
        exact writeNothing heach hwrite
      rw [if_neg hempty]
      have hpos : 0 < source.length := List.length_pos_iff.mpr hempty
      obtain ⟨m, hm⟩ : ∃ m, source.length = m + 1 := ⟨source.length - 1, by omega⟩
      have hfirst : translateDataAddress cpu memory va .WRITE = translateDataAddress cpu memory₀ va .WRITE := by
        obtain ⟨b, bs, rfl⟩ := List.exists_cons_of_ne_nil hempty
        exact hundisturbed.1
      rw [hfirst]
      cases htr : translateDataAddress cpu memory₀ va .WRITE with
      | error e =>
          rw [hm, each_of_error (locateData_error htr)] at heach
          cases heach
      | ok r =>
          obtain ⟨tr, cpu₁⟩ := r
          have hl := locateData_of_ok htr
          obtain ⟨hroom, hbounded⟩ := located_room hl
          dsimp only at hroom hbounded ⊢
          generalize hamount : min source.length (tr.roomAt va) = amount
          have hle : amount ≤ source.length := by omega
          obtain ⟨hstretch, hrest⟩ := each_stretch hl hseam (k := amount) (by omega) hle
            (by show amount ≤ tr.roomAt va; omega)
          rw [hstretch] at heach
          obtain ⟨⟨addresses', cpu₂⟩, heach', hr⟩ := map_eq_ok.mp heach
          obtain ⟨rfl, rfl⟩ := Prod.mk.inj hr
          rw [write_stretch hle (by show tr.physicalAddress.toNat + amount ≤ 2 ^ 64; omega)] at hwrite
          obtain ⟨memory₁, hchunk, hwrite⟩ := Option.bind_eq_some_iff.mp hwrite
          have hlen : (source.take amount).length = amount := by rw [List.length_take, min_eq_left hle]
          have hbytes : (IMemory.write memory tr.physicalAddress (source.take amount)).toOption = _ :=
            BytewiseMemory.write_eq memory (by rw [hlen]; omega)
          rw [hchunk, hlen] at hbytes
          have hundisturbed' := undisturbed_stretch hundisturbed hl hseam (by omega) hle
            (by show amount ≤ tr.roomAt va; omega) hbytes.symm
          rw [← List.length_drop] at heach' hrest
          cases hw : IMemory.write memory tr.physicalAddress (source.take amount) with
          | error what =>
              rw [hw] at hchunk
              cases hchunk
          | ok memory₂ =>
              rw [hw] at hchunk
              obtain rfl : memory₂ = memory₁ := Option.some.inj hchunk
              exact ih (by rw [List.length_drop]; omega) hrest hundisturbed' heach' hwrite

/-- A store whose first page faults has stored nothing, and not every byte of it could be stored. -/
theorem writeData_of_faultsFirst [BytewiseMemory M] (hne : source ≠ [])
    (hseam : Seamless (locateData memory .WRITE) cpu va source.length) (h : FaultsFirst cpu memory va source) :
    (∃ e cpu', writeData cpu memory va source = (.error e, cpu', memory)) ∧ ¬ NeverFaults cpu memory va source := by
  have hpos : 0 < source.length := List.length_pos_iff.mpr hne
  obtain ⟨m, hm⟩ : ∃ m, source.length = m + 1 := ⟨source.length - 1, by omega⟩
  unfold FaultsFirst at h
  unfold writeData NeverFaults
  rw [show writeDataLoop source.length cpu memory va source = writeDataLoop (m + 1) cpu memory va source by rw [hm],
    writeDataLoop, if_neg hne]
  cases htr : translateDataAddress cpu memory va .WRITE with
  | error e =>
      refine ⟨⟨_, _, rfl⟩, ?_⟩
      rintro ⟨_, _, _, heach, _⟩
      rw [hm, each_of_error (locateData_error htr)] at heach
      cases heach
  | ok r =>
      obtain ⟨tr, cpu₁⟩ := r
      rw [htr] at h
      have hl := locateData_of_ok htr
      obtain ⟨hroom, hbounded⟩ := located_room hl
      dsimp only at hroom hbounded h ⊢
      generalize hamount : min source.length (tr.roomAt va) = amount at h ⊢
      have hle : amount ≤ source.length := by omega
      refine ⟨?_, ?_⟩
      · cases hw : IMemory.write memory tr.physicalAddress (source.take amount) with
        | error what => exact ⟨_, _, rfl⟩
        | ok memory₁ =>
            rw [hw] at h
            cases h
      · rintro ⟨addresses, cpu', memory', heach, hwrite⟩
        obtain ⟨hstretch, _⟩ := each_stretch hl hseam (k := amount) (by omega) hle
          (by show amount ≤ tr.roomAt va; omega)
        rw [hstretch] at heach
        obtain ⟨r, _, hr⟩ := map_eq_ok.mp heach
        obtain ⟨rfl, rfl⟩ := Prod.mk.inj hr
        rw [write_stretch hle (by show tr.physicalAddress.toNat + amount ≤ 2 ^ 64; omega), h] at hwrite
        cases hwrite

/-- **Stores** over pages of one source are bytewise when no page after the first faults and the store does not
    change its own translation. -/
theorem writesBytewise_of_sameSources [BytewiseMemory M] (h : SameSources memory .WRITE cpu va source.length)
    (hundisturbed : Undisturbed memory memory cpu va source)
    (hfault : FaultsFirst cpu memory va source ∨ NeverFaults cpu memory va source) :
    WritesBytewise cpu memory va source := by
  have hseam := seamless_of_sameSources h
  have hstored : NeverFaults cpu memory va source → WritesBytewise cpu memory va source := by
    rintro ⟨addresses, cpu₁, memory₁, heach, hwrite⟩
    have hdone : writeData cpu memory va source = (.ok (), cpu₁, memory₁) :=
      writeDataLoop_spec (Nat.le_refl _) hseam hundisturbed heach hwrite
    refine ⟨fun memory' => ⟨?_, ?_⟩, ?_⟩
    · rintro ⟨cpu', h⟩
      rw [hdone] at h
      cases h
      exact ⟨addresses, cpu₁, heach, hwrite⟩
    · rintro ⟨addresses', cpu', heach', hwrite'⟩
      rw [heach] at heach'
      cases heach'
      rw [hwrite] at hwrite'
      cases hwrite'
      exact ⟨cpu₁, hdone⟩
    · intro e cpu' memory' h
      rw [hdone] at h
      cases h
  rcases hfault with hfirst | hnever
  · by_cases hempty : source = []
    · subst hempty
      exact hstored ⟨[], cpu, memory, rfl, rfl⟩
    · obtain ⟨⟨e, cpu₁, herror⟩, hnot⟩ := writeData_of_faultsFirst hempty hseam hfirst
      refine ⟨fun memory' => ⟨?_, ?_⟩, ?_⟩
      · rintro ⟨cpu', h⟩
        rw [herror] at h
        cases h
      · rintro ⟨addresses, cpu', heach, hwrite⟩
        exact absurd ⟨addresses, cpu', memory', heach, hwrite⟩ hnot
      · intro e' cpu' memory' h
        rw [herror] at h
        cases h
        rfl
  · exact hstored hnever

/-- **Data accesses, byte by byte.** Loads and stores over pages of one source are bytewise; a store moreover must
    not fault after its first page, nor change its own translation. -/
theorem dataAccess_bytewise [BytewiseMemory M] (cpu : CPUState) (memory : M) (va : UInt64) :
    (∀ size, SameSources memory .READ cpu va size → ReadsBytewise cpu memory va size) ∧
      ∀ source, SameSources memory .WRITE cpu va source.length → Undisturbed memory memory cpu va source →
        (FaultsFirst cpu memory va source ∨ NeverFaults cpu memory va source) →
        WritesBytewise cpu memory va source :=
  ⟨fun _ h => readsBytewise_of_sameSources h, fun _ h hundisturbed hfault =>
    writesBytewise_of_sameSources h hundisturbed hfault⟩

section
variable (h : (cpu.psr &&& (1 : UInt64) <<< 17 == 0) = true)
include h

/-- In physical mode every address is its own translation. -/
theorem translate_physical : translateDataAddress cpu memory va t =
      .ok (⟨va, (1 : UInt64) <<< 61, 0, 0, 3, .PHYSICAL_MODE⟩, cpu) := by
  have hsource : dataSource cpu va = .physical := by
    rw [dataSource, if_pos h]
  rw [translateDataAddress_eq, hsource]
  rfl

theorem sameSources_physical (n : Nat) : SameSources memory t cpu va n := by
  induction n generalizing va with
  | zero => trivial
  | succ n ih =>
      intro tr cpu' htr
      rw [translate_physical h] at htr
      cases htr
      refine ⟨.inr (.inr ?_), ih⟩
      rw [dataSource, dataSource, if_pos h, if_pos h]

theorem undisturbed_physical (source : List UInt8) : Undisturbed memory₀ memory cpu va source := by
  induction source generalizing va memory with
  | nil => trivial
  | cons b bs ih =>
      refine ⟨(translate_physical h).trans (translate_physical h).symm, fun tr cpu' memory' htr _ => ?_⟩
      rw [translate_physical h] at htr
      cases htr
      exact ih

theorem each_physical (n : Nat) : each (locateData memory t) cpu va n = .ok (consecutive va n, cpu) := by
  induction n generalizing va with
  | zero => rfl
  | succ n ih =>
      rw [each_of_ok (locateData_of_ok (translate_physical h)), ih]
      rfl

end

/-- A load that returns bytes although a byte of it, located by itself, cannot be read. -/
theorem not_readsBytewise {size : Nat} {bytes : List UInt8} (hread : (readData cpu memory va size).1 = .ok bytes)
    (heach : each (locateData memory .READ) cpu va size = .ok (addresses, cpu'))
    (hbytes : readEach memory addresses = none) : ¬ ReadsBytewise cpu memory va size := by
  intro h
  obtain ⟨addresses', cpu₁, heach', hall⟩ := (h bytes).mp hread
  rw [heach] at heach'
  cases heach'
  exact absurd (hall.symm.trans hbytes) (Option.some_ne_none _)

/-- A store that faults although it changed a byte. -/
theorem not_writesBytewise {x : UInt64} (hfault : (writeData cpu memory va source).1.toOption = none ∧
      readByte (writeData cpu memory va source).2.2 x ≠ readByte memory x) : ¬ WritesBytewise cpu memory va source := by
  intro h
  obtain ⟨hfault, hbyte⟩ := hfault
  generalize hr : writeData cpu memory va source = r at hfault hbyte
  obtain ⟨result, cpu', memory'⟩ := r
  cases result with
  | ok _ => cases hfault
  | error e =>
      obtain rfl := h.2 e cpu' memory' hr
      exact hbyte rfl

end Sources

/-- Sixteen bytes of memory, accessed in physical mode. -/
theorem dataAccess_bytewise_physical :
    ReadsBytewise .reset (⟨List.replicate 16 7⟩ : FlatMemory) 4 8 ∧
      WritesBytewise .reset (⟨List.replicate 16 7⟩ : FlatMemory) 4 [1, 2] := by
  have hphysical : (CPUState.reset.psr &&& (1 : UInt64) <<< 17 == 0) = true := by decide
  generalize CPUState.reset = cpu at hphysical ⊢
  obtain ⟨hread, hwrite⟩ := dataAccess_bytewise cpu (⟨List.replicate 16 7⟩ : FlatMemory) 4
  exact ⟨hread 8 (sameSources_physical hphysical 8),
    hwrite [1, 2] (sameSources_physical hphysical 2) (undisturbed_physical hphysical [1, 2])
      (.inr ⟨_, _, _, each_physical hphysical 2, rfl⟩)⟩

/-- A processor in virtual mode whose per-CPU page lies at physical address 0. -/
def perCpuAtZero : CPUState := { CPUState.reset.setAR 3 0x40000 with psr := (1 : UInt64) <<< 17 }

/-- The same with a translation register for the first four kibibytes of region 0. -/
def firstPageMapped : CPUState :=
  { perCpuAtZero with
    dtr := CPUState.reset.dtr.set 0
      { physicalAddress := 0x461, virtualAddress := 0, itir := 0x30, regionValue := 0, valid := true } zero_lt_256 }

/-- Sixteen mebibytes of zeroed memory. -/
def zeroedPhysicalMemory : SparseMemory := ⟨0x1000000, fun _ => 0⟩

theorem firstCovering_reset {n : Nat} (va rid : UInt64) :
    firstCovering (Vector.replicate n ({} : TranslationRegisterState)) va rid = none := by
  refine List.find?_eq_none.mpr fun i _ => ?_
  simp [translationEntryCovers]

/-- The byte at the end of the per-CPU window, and the byte behind it. -/
theorem translate_perCpuAtZero :
    translateDataAddress perCpuAtZero zeroedPhysicalMemory 0xFFFFFFFFFFFC343F .READ =
        .ok (⟨0x343F, kPerCpuPageSize, 0, 0, 3, .REGION7_IDENTITY⟩, perCpuAtZero) ∧
      translateDataAddress perCpuAtZero zeroedPhysicalMemory 0xFFFFFFFFFFFC3440 .READ =
        .ok (⟨0x1FFFFFFFFFFC3440, (1 : UInt64) <<< 61, 0, 0, 3, .REGION7_IDENTITY⟩, perCpuAtZero) := by
  have hdtr : ∀ va rid, firstCovering perCpuAtZero.dtr va rid = none := firstCovering_reset
  have hdtlb : ∀ va rid, firstCovering perCpuAtZero.dtlb va rid = none := firstCovering_reset
  constructor
  · rw [translateDataAddress_eq, dataSource, if_neg (by decide), hdtr, hdtlb]
    rfl
  · rw [translateDataAddress_eq, dataSource, if_neg (by decide), hdtr, hdtlb]
    rfl

theorem readData_perCpuAtZero :
    (readData perCpuAtZero zeroedPhysicalMemory 0xFFFFFFFFFFFC343F 2).1 = .ok [0, 0] := by
  rw [readData, readDataLoop, if_neg (by decide), translate_perCpuAtZero.1]
  rfl

theorem each_perCpuAtZero : each (locateData zeroedPhysicalMemory .READ) perCpuAtZero 0xFFFFFFFFFFFC343F 2 =
    .ok ([0x343F, 0x1FFFFFFFFFFC3440], perCpuAtZero) := by
  rw [each_of_ok (locateData_of_ok translate_perCpuAtZero.1)]
  show (each _ _ 0xFFFFFFFFFFFC3440 1).map _ = _
  rw [each_of_ok (locateData_of_ok translate_perCpuAtZero.2)]
  rfl

/-- **Past the per-CPU window, and onto an unmapped page.** A load over the end of the window reads on in the per-CPU
    page, while the byte behind the window translates to an address of region 7 that no memory backs. A store that
    runs onto an unmapped page has stored its first byte when it faults. -/
theorem dataAccess_not_bytewise :
    ¬ ReadsBytewise perCpuAtZero zeroedPhysicalMemory 0xFFFFFFFFFFFC343F 2 ∧
      ¬ WritesBytewise firstPageMapped zeroedPhysicalMemory 0xFFF [1, 1] :=
  ⟨not_readsBytewise readData_perCpuAtZero each_perCpuAtZero (by decide +kernel),
    not_writesBytewise (x := 0xFFF) (by decide +kernel)⟩

/-! ## What an access changes of the processor -/

/-- The data TLB is all that changed. -/
def SameButDataTlb (cpu cpu' : CPUState) : Prop :=
  ∃ entries cursor, cpu' = { cpu with dtlb := entries, dtlbReplacementIndex := cursor }

section Frame
variable {M : Type _} [IMemory M] {cpu cpu' cpu'' : CPUState} {memory memory' : M} {va : UInt64}
  {t : MemoryAccessType} {tr : IA64AddressTranslation}

theorem SameButDataTlb.refl (cpu : CPUState) : SameButDataTlb cpu cpu := ⟨cpu.dtlb, cpu.dtlbReplacementIndex, rfl⟩

theorem SameButDataTlb.trans (h : SameButDataTlb cpu cpu') (h' : SameButDataTlb cpu' cpu'') :
    SameButDataTlb cpu cpu'' := by
  obtain ⟨entries, cursor, rfl⟩ := h
  obtain ⟨entries', cursor', rfl⟩ := h'
  exact ⟨entries', cursor', rfl⟩

theorem walkShortVhpt_frame (h : walkShortVhpt cpu memory va t = .ok (tr, cpu')) : SameButDataTlb cpu cpu' := by
  obtain ⟨⟨pte, hash⟩, -, h⟩ := bind_eq_ok.mp h
  obtain ⟨⟨⟩, -, h⟩ := bind_eq_ok.mp h
  obtain ⟨cpu₁, hins, h⟩ := bind_eq_ok.mp h
  rw [mapError_eq_ok, CPUState.insertDTLB] at hins
  obtain ⟨⟨entries, cursor⟩, -, rfl⟩ := map_eq_ok.mp hins
  exact ⟨entries, cursor, (Prod.mk.inj (Except.ok.inj h)).2.symm⟩

theorem translateDataAddress_frame (h : translateDataAddress cpu memory va t = .ok (tr, cpu')) :
    SameButDataTlb cpu cpu' := by
  rw [translateDataAddress_eq] at h
  split at h
  · obtain ⟨_, _, hpair⟩ := map_eq_ok.mp h
    rw [← (Prod.mk.inj hpair).2]
    exact .refl cpu
  · obtain ⟨⟨⟩, -, hwalk⟩ := bind_eq_ok.mp h
    exact walkShortVhpt_frame hwalk

theorem readDataLoop_frame (memory : M) (fuel : Nat) (cpu : CPUState) (address : UInt64) (remaining : Nat) :
    SameButDataTlb cpu (readDataLoop memory fuel cpu address remaining).2 := by
  induction fuel generalizing cpu address remaining with
  | zero => exact .refl cpu
  | succ fuel ih =>
      unfold readDataLoop
      split
      · exact .refl cpu
      · split
        · exact .refl cpu
        · next htranslated =>
          have hframe := translateDataAddress_frame htranslated
          dsimp only
          split
          · exact hframe
          · exact hframe.trans (ih _ _ _)

/-- **A load changes the data TLB and no register.** -/
theorem readData_frame (cpu : CPUState) (memory : M) (virtualAddress : UInt64) (size : Nat) :
    SameButDataTlb cpu (readData cpu memory virtualAddress size).2 :=
  readDataLoop_frame memory size cpu virtualAddress size

end Frame
end GuideXOS.Core
