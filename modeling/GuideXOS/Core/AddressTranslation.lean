import GuideXOS.Core.Memory
import GuideXOS.Core.Tlb

/-!
# `AddressTranslation` — data translation through registers, TLB and the VHPT walk

`translateDataAddress` resolves a guest data address: physical mode, the data translation registers and
data TLB, the fixed aliases of regions 6 and 7, and last the short-format VHPT walk, which reads a
page-table entry from guest memory, checks it and leaves it in the data TLB.

The walk and the TLB hit decide about the *same* page-table entry on two code paths. The second half of
the module compares the two: the cached entry answers like the walk exactly for the accesses whose
accessed-bit and dirty-bit checks the walk would pass (`hit_agrees_walk_iff`).
-/

namespace GuideXOS.Core
open Lib.Words Lib.Slots Lib.Fallible

def kRegionOffsetMask : UInt64 := ((1 : UInt64) <<< 61) - 1
def kVirtualRegionNumberMask : UInt64 := 0xE000000000000000
def kRegion6ReplayVirtualBase : UInt64 := 0xC000000100000000
def kRegion6ReplayVirtualSpan : UInt64 := 0x20000000
def kPerCpuVirtualBase : UInt64 := 0xFFFFFFFFFFFC0000
def kPerCpuVirtualSpan : UInt64 := 0x3440
def kPerCpuPageSize : UInt64 := (1 : UInt64) <<< 18
def kIa64PhysicalAddressMask : UInt64 := ((1 : UInt64) <<< 50) - 1

inductive MemoryAccessType where
  | READ | WRITE | EXECUTE | NON_ACCESS
  deriving DecidableEq

inductive IA64TranslationMechanism where
  | PHYSICAL_MODE | REGION6_IDENTITY | REGION7_IDENTITY | TRANSLATION_REGISTER | DATA_TLB | SHORT_VHPT
  deriving DecidableEq

inductive IA64TranslationFaultKind where
  | TLB_MISS | VHPT_MISS | NESTED_TLB_MISS | PAGE_NOT_PRESENT | ACCESS_BIT | DIRTY_BIT | ACCESS_RIGHTS
  deriving DecidableEq

structure IA64TranslationFault where
  kind : IA64TranslationFaultKind
  virtualAddress : UInt64
  accessType : MemoryAccessType
  vectorOffset : UInt64
  detail : String
  hashAddress : UInt64 := 0

/-- What a translation can throw: a fault for the guest, or a host exception. -/
inductive TranslationException where
  | fault (f : IA64TranslationFault)
  | invalidArgument (what : String)

structure IA64AddressTranslation where
  physicalAddress : UInt64
  pageSize : UInt64
  regionId : UInt64
  memoryAttribute : UInt8
  accessRights : UInt8
  mechanism : IA64TranslationMechanism

/-! ## Page-table entry fields -/

def ptePresent (pte : UInt64) : Bool := pte &&& 1 != 0
def pteAccessed (pte : UInt64) : Bool := pte &&& (1 : UInt64) <<< 5 != 0
def pteDirty (pte : UInt64) : Bool := pte &&& (1 : UInt64) <<< 6 != 0
def pteMemoryAttribute (pte : UInt64) : UInt8 := ((pte >>> 2) &&& 7).toUInt8
def ptePagePrivilege (pte : UInt64) : UInt64 := (pte >>> 7) &&& 3
def pteAccessRights (pte : UInt64) : UInt8 := ((pte >>> 9) &&& 7).toUInt8

/-- **`hasPermission`.** Access rights 4–7 grant the promoted combinations; the privilege level has been
    compared with the entry's own before. -/
def hasPermission (accessRights : UInt8) (cpl pagePrivilege : UInt64) (accessType : MemoryAccessType) :
    Bool :=
  if pagePrivilege < cpl then false
  else match accessType with
    | .READ => accessRights != 7
    | .WRITE => accessRights == 2 || accessRights == 3 || accessRights == 4 || accessRights == 5 ||
        accessRights == 6
    | .EXECUTE => accessRights == 1 || accessRights == 3 || accessRights == 5 || accessRights == 6 ||
        accessRights == 7
    | .NON_ACCESS => true

/-- **`readPhysicalU64`.** Unreachable page-table backing is reported as a nested TLB miss. -/
def readPhysicalU64 {M : Type _} [IMemory M] (memory : M) (physicalAddress faultingVirtualAddress : UInt64)
    (accessType : MemoryAccessType) : Except TranslationException UInt64 :=
  match IMemory.read memory physicalAddress 8 with
  | .ok bytes => .ok (wordOfBytes bytes)
  | .error _ => .error (.fault {
      kind := .NESTED_TLB_MISS, virtualAddress := faultingVirtualAddress, accessType := accessType,
      vectorOffset := 0x1400, detail := "guest VHPT backing is not physically accessible" })

/-! ## Translation registers and the data TLB -/

def regionOf (virtualAddress : UInt64) : Fin 8 := Fin.ofNat 8 (virtualAddress >>> 61).toNat

/-- Current privilege level, from a PSR value. -/
def cplOf (psr : UInt64) : UInt64 := (psr >>> 32) &&& 3

/-- What a matching entry answers: the checks the TLB path makes, and the translation. -/
def answerFromEntry (entry : TranslationRegisterState) (virtualAddress rid cpl : UInt64)
    (accessType : MemoryAccessType) (mechanism : IA64TranslationMechanism) :
    Except TranslationException IA64AddressTranslation :=
  let pageShift := pageShiftOf entry.itir
  let pageMask := lowMask pageShift
  let tte := entry.physicalAddress
  if !ptePresent tte then
    .error (.fault {
      kind := .PAGE_NOT_PRESENT, virtualAddress := virtualAddress, accessType := accessType,
      vectorOffset := 0x5000, detail := "matching translation entry is not present" })
  else if !hasPermission (pteAccessRights tte) cpl (ptePagePrivilege tte) accessType then
    .error (.fault {
      kind := .ACCESS_RIGHTS, virtualAddress := virtualAddress, accessType := accessType,
      vectorOffset := 0x5300, detail := "translation entry denies the requested access" })
  else
    let physicalBase := (tte &&& kIa64PhysicalAddressMask) &&& ~~~pageMask
    .ok {
      physicalAddress := physicalBase ||| (virtualAddress &&& pageMask)
      pageSize := 1 <<< pageShift
      regionId := rid
      memoryAttribute := pteMemoryAttribute tte
      accessRights := pteAccessRights tte
      mechanism := mechanism }

/-- One turn of the loop over the entries: `none` goes on to the next entry. -/
def tryEntry (virtualAddress rid cpl : UInt64) (accessType : MemoryAccessType)
    (mechanism : IA64TranslationMechanism) (entry : TranslationRegisterState) :
    Option (Except TranslationException IA64AddressTranslation) :=
  if !entry.valid || regionIdOf entry.regionValue != rid then none
  else
    let pageShift := pageShiftOf entry.itir
    if pageShift < 12 ∨ 61 < pageShift then none
    else
      let pageMask := lowMask pageShift
      if virtualAddress &&& ~~~pageMask != entry.virtualAddress &&& ~~~pageMask then none
      else some (answerFromEntry entry virtualAddress rid cpl accessType mechanism)

/-- **`tryEntries`.** The first matching entry answers, with a translation or a fault. -/
def tryEntries {n : Nat} (entries : Vector TranslationRegisterState n) (virtualAddress rid cpl : UInt64)
    (accessType : MemoryAccessType) (mechanism : IA64TranslationMechanism) :
    Option (Except TranslationException IA64AddressTranslation) :=
  (List.finRange n).findSome? fun i => tryEntry virtualAddress rid cpl accessType mechanism (getElem entries i i.isLt)

variable (cpu : CPUState)

/-- **`translateFromDtrOrDtlb`.** Translation registers take precedence over the data TLB; `none` is a
    miss in both. -/
def translateFromDtrOrDtlb (virtualAddress : UInt64) (accessType : MemoryAccessType) :
    Option (Except TranslationException IA64AddressTranslation) :=
  let rid := regionIdOf (cpu.getRR (regionOf virtualAddress))
  let cpl := cplOf cpu.psr
  (tryEntries cpu.dtr virtualAddress rid cpl accessType .TRANSLATION_REGISTER).or
    (tryEntries cpu.dtlb virtualAddress rid cpl accessType .DATA_TLB)

/-! ## The short-format VHPT walk -/

/-- **`ComputeIA64ShortVhptAddress`.** -/
def computeIA64ShortVhptAddress (virtualAddress : UInt64) : Except TranslationException UInt64 :=
  let rr := cpu.getRR (regionOf virtualAddress)
  let pta := cpu.getCR 8
  let pageShift := pageShiftOf rr
  let tableSize := (pta >>> 2) &&& 0x3F
  if pageShift < 12 ∨ 61 < pageShift ∨ tableSize = 0 ∨ 61 < tableSize then
    .error (.invalidArgument "IA-64 CR.PTA/RR fields cannot form a short VHPT address")
  else
    let offsetMask := lowMask tableSize
    let vhptOffset := ((virtualAddress >>> pageShift) <<< 3) &&& offsetMask
    let base := ((pta <<< 3) >>> (tableSize + 3)) <<< tableSize
    .ok ((virtualAddress &&& kVirtualRegionNumberMask) ||| vhptOffset ||| base)

/-- **The page-table entry of an address**, fetched through the guest's linear page table. A page-table
    page that the registers and the TLB do not map is left to the guest's VHPT vector. -/
def readVhptEntry {M : Type _} [IMemory M] (memory : M) (virtualAddress : UInt64) (accessType : MemoryAccessType) :
    Except TranslationException (UInt64 × UInt64) := do
  let hashAddress ← computeIA64ShortVhptAddress cpu virtualAddress
  match translateFromDtrOrDtlb cpu hashAddress .READ with
  | none => .error (.fault {
      kind := .VHPT_MISS, virtualAddress := virtualAddress, accessType := accessType,
      vectorOffset := 0x0000, detail := "DTLB miss while accessing the short-format VHPT entry",
      hashAddress := hashAddress })
  | some hashTranslation =>
      let hashTranslation ← hashTranslation
      let pte ← readPhysicalU64 memory hashTranslation.physicalAddress hashAddress .READ
      return (pte, hashAddress)

/-- The checks the walk makes on the entry it read, in this order. -/
def checkVhptEntry (pte virtualAddress hashAddress cpl : UInt64) (accessType : MemoryAccessType) :
    Except TranslationException Unit :=
  let fault (kind : IA64TranslationFaultKind) (vectorOffset : UInt64) (detail : String) :
      Except TranslationException Unit :=
    .error (.fault {
      kind := kind, virtualAddress := virtualAddress, accessType := accessType,
      vectorOffset := vectorOffset, detail := detail, hashAddress := hashAddress })
  if !ptePresent pte then
    fault .PAGE_NOT_PRESENT 0x5000 "short-format VHPT entry is not present"
  else if accessType ≠ .NON_ACCESS ∧ !pteAccessed pte then
    fault .ACCESS_BIT 0x2800 "short-format VHPT entry accessed bit is clear"
  else if accessType = .WRITE ∧ !pteDirty pte then
    fault .DIRTY_BIT 0x2000 "short-format VHPT entry dirty bit is clear"
  else if !hasPermission (pteAccessRights pte) cpl (ptePagePrivilege pte) accessType then
    fault .ACCESS_RIGHTS 0x5300 "short-format VHPT entry denies the requested access"
  else .ok ()

/-- The page size descriptor the walk files an entry under. -/
def vhptItir (regionRegister : UInt64) : UInt64 :=
  (regionIdOf regionRegister <<< 8) ||| (pageShiftOf regionRegister <<< 2)

/-- The translation the walk derives from an entry that passed its checks. -/
def vhptTranslation (pte virtualAddress regionRegister : UInt64) : IA64AddressTranslation :=
  let pageShift := pageShiftOf regionRegister
  let regionOffset := virtualAddress &&& kRegionOffsetMask
  let pageMask := lowMask pageShift
  let physicalBase := (pte &&& kIa64PhysicalAddressMask) &&& ~~~pageMask
  { physicalAddress := physicalBase ||| (regionOffset &&& pageMask)
    pageSize := 1 <<< pageShift
    regionId := regionIdOf regionRegister
    memoryAttribute := pteMemoryAttribute pte
    accessRights := pteAccessRights pte
    mechanism := .SHORT_VHPT }

/-- **The walk**: fetch the entry, check it, cache it in the data TLB, and translate. -/
def walkShortVhpt {M : Type _} [IMemory M] (memory : M) (virtualAddress : UInt64) (accessType : MemoryAccessType) :
    Except TranslationException (IA64AddressTranslation × CPUState) := do
  let regionRegister := cpu.getRR (regionOf virtualAddress)
  let (pte, hashAddress) ← readVhptEntry cpu memory virtualAddress accessType
  checkVhptEntry pte virtualAddress hashAddress (cplOf cpu.psr) accessType
  let cpu ← (cpu.insertDTLB pte virtualAddress (vhptItir regionRegister) regionRegister).mapError
    .invalidArgument
  return (vhptTranslation pte virtualAddress regionRegister, cpu)

/-! ## Data translation -/

/-- The fixed aliases: the per-CPU page behind `ar.k3`, the kernel identity map of region 7 and the
    uncached alias of region 6. -/
def identityAlias (virtualAddress : UInt64) : Option IA64AddressTranslation :=
  let region := virtualAddress >>> 61
  let rid := regionIdOf (cpu.getRR (regionOf virtualAddress))
  let regionOffset := virtualAddress &&& kRegionOffsetMask
  if kPerCpuVirtualBase ≤ virtualAddress ∧ virtualAddress - kPerCpuVirtualBase < kPerCpuVirtualSpan then
    let physicalBase := (cpu.getAR 3 - kPerCpuPageSize) &&& kIa64PhysicalAddressMask
    some {
      physicalAddress := physicalBase + (virtualAddress - kPerCpuVirtualBase), pageSize := kPerCpuPageSize,
      regionId := rid, memoryAttribute := 0, accessRights := 3, mechanism := .REGION7_IDENTITY }
  else if region = 7 then
    some {
      physicalAddress := regionOffset, pageSize := (1 : UInt64) <<< 61, regionId := rid,
      memoryAttribute := 0, accessRights := 3, mechanism := .REGION7_IDENTITY }
  else if region = 6 then
    let offset := virtualAddress - kRegion6ReplayVirtualBase
    if kRegion6ReplayVirtualBase ≤ virtualAddress ∧ offset < kRegion6ReplayVirtualSpan then
      some {
        physicalAddress := offset, pageSize := (1 : UInt64) <<< 61, regionId := rid,
        memoryAttribute := 4, accessRights := 3, mechanism := .REGION6_IDENTITY }
    else
      some {
        physicalAddress := regionOffset, pageSize := (1 : UInt64) <<< 61, regionId := rid,
        memoryAttribute := 4, accessRights := 3, mechanism := .REGION6_IDENTITY }
  else none

/-- Whether the walk may start: the region and the page table use the short format with supported sizes,
    and interruption collection is on. -/
def checkVhptEnabled (virtualAddress : UInt64) (accessType : MemoryAccessType) : Except TranslationException Unit :=
  let regionRegister := cpu.getRR (regionOf virtualAddress)
  let pta := cpu.getCR 8
  let pageShift := pageShiftOf regionRegister
  let ptaSize := (pta >>> 2) &&& 0x3F
  let vhptEnabled := regionRegister &&& 1 != 0 && pta &&& 1 != 0
  let longFormat := pta &&& (1 : UInt64) <<< 8 != 0
  let interruptionCollection := cpu.psr &&& (1 : UInt64) <<< 13 != 0
  if !vhptEnabled ∨ longFormat ∨ pageShift < 12 ∨ 61 < pageShift ∨ ptaSize = 0 ∨ 60 < ptaSize then
    .error (.fault {
      kind := if interruptionCollection then .TLB_MISS else .NESTED_TLB_MISS
      virtualAddress := virtualAddress, accessType := accessType
      vectorOffset := if interruptionCollection then 0x1000 else 0x1400
      detail := "VHPT is unavailable for this RR/PTA configuration" })
  else if !interruptionCollection then
    .error (.fault {
      kind := .NESTED_TLB_MISS, virtualAddress := virtualAddress, accessType := accessType,
      vectorOffset := 0x1400, detail := "TLB miss occurred while interruption collection is disabled" })
  else .ok ()

/-- **`TranslateDataAddress`.** Only the walk changes the processor state. -/
def translateDataAddress {M : Type _} [IMemory M] (memory : M) (virtualAddress : UInt64)
    (accessType : MemoryAccessType) (forceVirtualTranslation : Bool := false) :
    Except TranslationException (IA64AddressTranslation × CPUState) := do
  let accessType := if forceVirtualTranslation then .NON_ACCESS else accessType
  if !forceVirtualTranslation && cpu.psr &&& (1 : UInt64) <<< 17 == 0 then
    return ({
      physicalAddress := virtualAddress, pageSize := (1 : UInt64) <<< 61, regionId := 0,
      memoryAttribute := 0, accessRights := 3, mechanism := .PHYSICAL_MODE }, cpu)
  match translateFromDtrOrDtlb cpu virtualAddress accessType with
  | some answer => return (← answer, cpu)
  | none =>
    match identityAlias cpu virtualAddress with
    | some translation => return (translation, cpu)
    | none =>
      checkVhptEnabled cpu virtualAddress accessType
      walkShortVhpt cpu memory virtualAddress accessType

/-! ## What a lookup answers -/

theorem tryEntry_eq (va rid cpl : UInt64) (t : MemoryAccessType) (m : IA64TranslationMechanism)
    (e : TranslationRegisterState) :
    tryEntry va rid cpl t m e =
      if translationEntryCovers e va rid then some (answerFromEntry e va rid cpl t m) else none := by
  unfold tryEntry translationEntryCovers
  split
  · rfl
  · dsimp only
    split
    · rfl
    · by_cases hpage : e.virtualAddress &&& ~~~lowMask (pageShiftOf e.itir) =
          va &&& ~~~lowMask (pageShiftOf e.itir)
      · simp [hpage]
      · simp [hpage, Ne.symm hpage]

/-- **The lookup** answers from the first entry that covers the address. -/
theorem tryEntries_eq {n : Nat} (entries : Vector TranslationRegisterState n) (va rid cpl : UInt64)
    (t : MemoryAccessType) (m : IA64TranslationMechanism) :
    tryEntries entries va rid cpl t m =
      (firstCovering entries va rid).map fun i => answerFromEntry (getElem entries i i.isLt) va rid cpl t m := by
  unfold tryEntries firstCovering
  induction List.finRange n with
  | nil => rfl
  | cons i is ih =>
      rw [List.findSome?_cons, List.find?_cons, tryEntry_eq, ih]
      cases translationEntryCovers entries[i] va rid <;> rfl

variable {t : MemoryAccessType} {tr : IA64AddressTranslation} {va : UInt64} {cpu : CPUState}

/-- A miss says that no register and no TLB entry covers the address, whatever the access. -/
theorem miss_iff :
    translateFromDtrOrDtlb cpu va t = none ↔
      firstCovering cpu.dtr va (regionIdOf (cpu.getRR (regionOf va))) = none ∧
        firstCovering cpu.dtlb va (regionIdOf (cpu.getRR (regionOf va))) = none := by
  rw [translateFromDtrOrDtlb, tryEntries_eq, tryEntries_eq, Option.or_eq_none_iff,
    Option.map_eq_none_iff, Option.map_eq_none_iff]

theorem not_covers_of_firstCovering_none {n : Nat} {entries : Vector TranslationRegisterState n} {rid : UInt64}
    (h : firstCovering entries va rid = none) (i : Fin n) :
    translationEntryCovers (getElem entries i i.isLt) va rid = false := by
  have := List.find?_eq_none.mp h i (List.mem_finRange i)
  rwa [Bool.not_eq_true] at this

/-- After a miss, the entry inserted for the address is the only one the lookup can find. -/
theorem firstCovering_set_of_miss {n : Nat} {entries : Vector TranslationRegisterState n} {s : Fin n}
    {tte itir rv : UInt64} (hk : ValidPageShift (pageShiftOf itir))
    (h : firstCovering entries va (regionIdOf rv) = none) :
    firstCovering (entries.set s (insertedEntry tte va itir rv) s.isLt) va (regionIdOf rv) = some s := by
  refine find?_of_unique (List.mem_finRange s) ?_ fun i hi => ?_
  · rw [Fin.getElem_fin, Vector.getElem_set_self]
    have hmem : (regionIdOf rv, va) ∈ coverage (insertedEntry tte va itir rv) :=
      (mem_coverage_inserted hk).mpr ⟨rfl, rfl⟩
    exact hmem
  · by_contra hne
    rw [Fin.getElem_fin, Vector.getElem_set_ne _ _ fun hval => hne (Fin.ext hval.symm)] at hi
    exact Bool.false_ne_true ((not_covers_of_firstCovering_none h i).symm.trans hi)

/-! ## The two decisions about one page-table entry -/

/-- **Same outcome**: equal translations up to the mechanism, or faults of one kind. -/
def SameOutcome : Except TranslationException (IA64AddressTranslation × CPUState) →
    Except TranslationException (IA64AddressTranslation × CPUState) → Prop
  | .ok (a, _), .ok (b, _) =>
      a.physicalAddress = b.physicalAddress ∧ a.pageSize = b.pageSize ∧
        a.memoryAttribute = b.memoryAttribute ∧ a.accessRights = b.accessRights
  | .error (.fault f), .error (.fault g) => f.kind = g.kind
  | .error (.invalidArgument a), .error (.invalidArgument b) => a = b
  | _, _ => False

instance : ∀ r r', Decidable (SameOutcome r r')
  | .ok (_, _), .ok (_, _) => inferInstanceAs (Decidable (_ ∧ _))
  | .error (.fault _), .error (.fault _) => inferInstanceAs (Decidable (_ = _))
  | .error (.invalidArgument _), .error (.invalidArgument _) => inferInstanceAs (Decidable (_ = _))
  | .ok (_, _), .error _ => .isFalse id
  | .error (.fault _), .ok _ => .isFalse id
  | .error (.invalidArgument _), .ok _ => .isFalse id
  | .error (.fault _), .error (.invalidArgument _) => .isFalse id
  | .error (.invalidArgument _), .error (.fault _) => .isFalse id

/-- The accessed-bit and dirty-bit checks the walk makes for an access. -/
def AccessRecorded (pte : UInt64) (t : MemoryAccessType) : Prop :=
  (t = .NON_ACCESS ∨ pteAccessed pte = true) ∧ (t = .WRITE → pteDirty pte = true)

theorem pageShiftOf_vhptItir (rr : UInt64) : pageShiftOf (vhptItir rr) = pageShiftOf rr := by
  refine ext_bits fun i hi => ?_
  simp only [vhptItir, pageShiftOf, regionIdOf, bit_and, bit_or, bit_shiftRight, bit_shiftLeft,
    bit_mask (m := 0x3F) (w := 6) rfl]
  simp
  grind

/-- A page lies inside its region, so dropping the region number first keeps the page offset. -/
theorem regionOffset_and_lowMask {k : UInt64} (hk : ValidPageShift k) (va : UInt64) :
    (va &&& kRegionOffsetMask) &&& lowMask k = va &&& lowMask k := by
  have hle : k.toNat ≤ 61 := by
    have := UInt64.le_iff_toNat_le.mp (UInt64.not_lt.mp (not_or.mp hk).2)
    simpa using this
  refine ext_bits fun i _ => ?_
  rw [bit_and, bit_and, bit_and, bit_mask (lowMask_toNat hk.toNat_lt),
    bit_mask (m := kRegionOffsetMask) (w := 61) rfl]
  grind

/-- **The hit and the walk agree** on a present entry exactly for the accesses it records. -/
theorem hit_agrees_walk_iff {pte hash rid cpl rr : UInt64} {cpu' : CPUState} (hk : ValidPageShift (pageShiftOf rr))
    (hpresent : ptePresent pte = true) :
    SameOutcome
        ((answerFromEntry (insertedEntry pte va (vhptItir rr) rr) va rid cpl t .DATA_TLB).map (·, cpu))
        ((checkVhptEntry pte va hash cpl t).map fun _ => (vhptTranslation pte va rr, cpu')) ↔
      AccessRecorded pte t := by
  have hoff := regionOffset_and_lowMask hk va
  have hshift : pageShiftOf (insertedEntry pte va (vhptItir rr) rr).itir = pageShiftOf rr :=
    pageShiftOf_vhptItir rr
  have htte : (insertedEntry pte va (vhptItir rr) rr).physicalAddress = pte := rfl
  simp only [answerFromEntry, checkVhptEntry, htte, hshift, hpresent, AccessRecorded]
  cases hperm : hasPermission (pteAccessRights pte) cpl (ptePagePrivilege pte) t <;>
    cases hacc : pteAccessed pte <;> cases hdirty : pteDirty pte <;> cases t <;>
    simp [SameOutcome, Except.map, hoff, vhptTranslation]

/-! ## A walk, and the hit that follows it -/

theorem mechanism_of_answer {e : TranslationRegisterState} {rid cpl : UInt64} {m : IA64TranslationMechanism}
    (h : answerFromEntry e va rid cpl t m = .ok tr) : tr.mechanism = m := by
  unfold answerFromEntry at h
  dsimp only at h
  split at h
  · cases h
  · split at h
    · cases h
    · rw [← Except.ok.inj h]

theorem mechanism_of_hit (h : translateFromDtrOrDtlb cpu va t = some (.ok tr)) : tr.mechanism ≠ .SHORT_VHPT := by
  rw [translateFromDtrOrDtlb, tryEntries_eq, tryEntries_eq, Option.or_eq_some_iff] at h
  rcases h with h | ⟨-, h⟩
  all_goals
    obtain ⟨i, -, hi⟩ := Option.map_eq_some_iff.mp h
    rw [mechanism_of_answer hi]
    decide

theorem mechanism_of_alias (h : identityAlias cpu va = some tr) : tr.mechanism ≠ .SHORT_VHPT := by
  unfold identityAlias at h
  dsimp only at h
  repeat' split at h
  all_goals cases h
  all_goals exact nofun

/-- The conditions under which an access reaches the walk. -/
structure ReachesWalk (cpu : CPUState) (va : UInt64) (t : MemoryAccessType) : Prop where
  virtual : (cpu.psr &&& (1 : UInt64) <<< 17 == 0) = false
  miss : translateFromDtrOrDtlb cpu va t = none
  noAlias : identityAlias cpu va = none
  enabled : checkVhptEnabled cpu va t = .ok ()

section Walk
variable {M : Type _} [IMemory M] {cpu cpu' : CPUState} {memory : M} {va : UInt64}
  {t : MemoryAccessType} {tr : IA64AddressTranslation}

theorem translate_of_reachesWalk (h : ReachesWalk cpu va t) :
    translateDataAddress cpu memory va t = walkShortVhpt cpu memory va t := by
  unfold translateDataAddress
  simp only [h.virtual, h.miss, h.noAlias, h.enabled, Bool.not_false, Bool.and_false,
    Bool.false_eq_true, if_false, ok_bind]

/-- **A translation by the walk** met every condition before it. -/
theorem reachesWalk_of_translate (h : translateDataAddress cpu memory va t = .ok (tr, cpu'))
    (hmech : tr.mechanism = .SHORT_VHPT) :
    ReachesWalk cpu va t ∧ walkShortVhpt cpu memory va t = .ok (tr, cpu') := by
  have h' := h
  unfold translateDataAddress at h'
  simp only [Bool.false_eq_true, if_false, Bool.not_false, Bool.true_and] at h'
  split at h'
  · rw [← (Prod.mk.inj (Except.ok.inj h')).1] at hmech
    cases hmech
  · next hvirt =>
    cases hhit : translateFromDtrOrDtlb cpu va t with
    | some answer =>
        rw [hhit] at h'
        obtain ⟨tr', rfl, heq⟩ := bind_eq_ok.mp h'
        rw [← (Prod.mk.inj (Except.ok.inj heq)).1] at hmech
        exact absurd hmech (mechanism_of_hit hhit)
    | none =>
        cases halias : identityAlias cpu va with
        | some tr' =>
            simp only [hhit, halias] at h'
            rw [← (Prod.mk.inj (Except.ok.inj h')).1] at hmech
            exact absurd hmech (mechanism_of_alias halias)
        | none =>
            simp only [hhit, halias] at h'
            obtain ⟨⟨⟩, hen, hwalk⟩ := bind_eq_ok.mp h'
            exact ⟨⟨by simpa using hvirt, hhit, halias, hen⟩, hwalk⟩

/-- **What the walk did**: it read a present entry and put it in one slot of the data TLB. -/
theorem walk_inv (h : walkShortVhpt cpu memory va t = .ok (tr, cpu'))
    (hk : ValidPageShift (pageShiftOf (cpu.getRR (regionOf va)))) :
    ∃ pte hash, readVhptEntry cpu memory va t = .ok (pte, hash) ∧ ptePresent pte = true ∧
      ∃ s cursor : Fin 64, cpu' = { cpu with
        dtlb := cpu.dtlb.set s (insertedEntry pte va (vhptItir (cpu.getRR (regionOf va)))
          (cpu.getRR (regionOf va))) s.isLt
        dtlbReplacementIndex := cursor } := by
  obtain ⟨⟨pte, hash⟩, hread, h⟩ := bind_eq_ok.mp h
  obtain ⟨⟨⟩, hcheck, h⟩ := bind_eq_ok.mp h
  obtain ⟨cpu₁, hins, h⟩ := bind_eq_ok.mp h
  refine ⟨pte, hash, hread, ?_, ?_⟩
  · by_contra hnot
    simp [checkVhptEntry, Bool.not_eq_true _ ▸ hnot] at hcheck
  · rw [mapError_eq_ok, CPUState.insertDTLB,
      insertTranslationEntry_ok (by rw [pageShiftOf_vhptItir]; exact hk)] at hins
    obtain ⟨⟨entries, cursor⟩, hsel, rfl⟩ := map_eq_ok.mp hins
    cases hsel
    exact ⟨_, _, (Prod.mk.inj (Except.ok.inj h)).2.symm⟩

theorem validPageShift_of_enabled (h : checkVhptEnabled cpu va t = .ok ()) :
    ValidPageShift (pageShiftOf (cpu.getRR (regionOf va))) := by
  unfold checkVhptEnabled at h
  dsimp only at h
  split at h
  · cases h
  · next hbad =>
    rintro (hlow | hhigh)
    · exact hbad (.inr (.inr (.inl hlow)))
    · exact hbad (.inr (.inr (.inr (.inl hhigh))))

/-- Whether an access reaches the walk does not depend on the kind of access. -/
theorem ReachesWalk.anyAccess (h : ReachesWalk cpu va t) (t' : MemoryAccessType) :
    ReachesWalk cpu va t' where
  virtual := h.virtual
  miss := miss_iff.mpr (miss_iff.mp h.miss)
  noAlias := h.noAlias
  enabled := by
    have hen := h.enabled
    unfold checkVhptEnabled at hen ⊢
    dsimp only at hen ⊢
    split at hen
    · cases hen
    · next hbad =>
      rw [if_neg hbad]
      split at hen
      · cases hen
      · next hic => rw [if_neg hic]

theorem readVhptEntry_anyAccess {pte hash : UInt64} (h : readVhptEntry cpu memory va t = .ok (pte, hash))
    (t' : MemoryAccessType) : readVhptEntry cpu memory va t' = .ok (pte, hash) := by
  obtain ⟨hashAddress, hhash, h⟩ := bind_eq_ok.mp h
  unfold readVhptEntry
  rw [hhash, ok_bind]
  cases htr : translateFromDtrOrDtlb cpu hashAddress .READ with
  | none =>
      rw [htr] at h
      cases h
  | some answer =>
      rw [htr] at h
      exact h

/-- The result of the walk, once the entry is known: its checks decide. -/
theorem walk_of_entry {pte hash : UInt64} (hread : readVhptEntry cpu memory va t = .ok (pte, hash))
    (hk : ValidPageShift (pageShiftOf (cpu.getRR (regionOf va)))) :
    ∃ cpu₁, walkShortVhpt cpu memory va t =
      (checkVhptEntry pte va hash (cplOf cpu.psr) t).map fun _ =>
        (vhptTranslation pte va (cpu.getRR (regionOf va)), cpu₁) := by
  rw [← pageShiftOf_vhptItir] at hk
  obtain ⟨cpu₁, hins⟩ : ∃ cpu₁, cpu.insertDTLB pte va (vhptItir (cpu.getRR (regionOf va)))
      (cpu.getRR (regionOf va)) = .ok cpu₁ := by
    rw [CPUState.insertDTLB, insertTranslationEntry_ok hk]
    exact ⟨_, rfl⟩
  refine ⟨cpu₁, ?_⟩
  unfold walkShortVhpt
  rw [hread, ok_bind]
  dsimp only
  rw [hins]
  cases checkVhptEntry pte va hash (cplOf cpu.psr) t <;> rfl

/-- The hit on the entry a walk left in the data TLB. -/
theorem translate_after_walk {pte : UInt64} {s cursor : Fin 64} (h : ReachesWalk cpu va t)
    (hcpu : cpu' = { cpu with
      dtlb := cpu.dtlb.set s (insertedEntry pte va (vhptItir (cpu.getRR (regionOf va)))
        (cpu.getRR (regionOf va))) s.isLt
      dtlbReplacementIndex := cursor }) (t' : MemoryAccessType) :
    translateDataAddress cpu' memory va t' =
      (answerFromEntry (insertedEntry pte va (vhptItir (cpu.getRR (regionOf va)))
        (cpu.getRR (regionOf va))) va (regionIdOf (cpu.getRR (regionOf va))) (cplOf cpu.psr) t'
        .DATA_TLB).map (·, cpu') := by
  have hk := validPageShift_of_enabled h.enabled
  rw [← pageShiftOf_vhptItir] at hk
  obtain ⟨hdtr, hdtlb⟩ := miss_iff.mp h.miss
  have hhit : translateFromDtrOrDtlb cpu' va t' =
      some (answerFromEntry (insertedEntry pte va (vhptItir (cpu.getRR (regionOf va)))
        (cpu.getRR (regionOf va))) va (regionIdOf (cpu.getRR (regionOf va))) (cplOf cpu.psr) t'
        .DATA_TLB) := by
    subst hcpu
    rw [translateFromDtrOrDtlb, tryEntries_eq, tryEntries_eq]
    show ((firstCovering cpu.dtr va (regionIdOf (cpu.getRR (regionOf va)))).map _).or
      ((firstCovering (cpu.dtlb.set s _ s.isLt) va (regionIdOf (cpu.getRR (regionOf va)))).map _) = _
    rw [hdtr, firstCovering_set_of_miss hk hdtlb, Option.map_none, Option.none_or, Option.map_some,
      Fin.getElem_fin, Vector.getElem_set_self]
    rfl
  have hvirt : (cpu'.psr &&& (1 : UInt64) <<< 17 == 0) = false := by
    subst hcpu
    exact h.virtual
  unfold translateDataAddress
  simp only [hvirt, hhit, Bool.not_false, Bool.and_false, Bool.false_eq_true, if_false]
  rfl

/-- The hit on that entry against the walk of the same address. -/
theorem sameOutcome_after_walk {pte hash : UInt64} {s cursor : Fin 64} {t₁ : MemoryAccessType}
    (h : ReachesWalk cpu va t₁) (hread : readVhptEntry cpu memory va t₁ = .ok (pte, hash))
    (hpresent : ptePresent pte = true)
    (hcpu : cpu' = { cpu with
      dtlb := cpu.dtlb.set s (insertedEntry pte va (vhptItir (cpu.getRR (regionOf va)))
        (cpu.getRR (regionOf va))) s.isLt
      dtlbReplacementIndex := cursor }) (t₂ : MemoryAccessType) :
    SameOutcome (translateDataAddress cpu' memory va t₂) (translateDataAddress cpu memory va t₂) ↔
      AccessRecorded pte t₂ := by
  have hk := validPageShift_of_enabled h.enabled
  obtain ⟨cpu₂, hsecond⟩ := walk_of_entry (readVhptEntry_anyAccess hread t₂) hk
  rw [translate_after_walk h hcpu t₂, translate_of_reachesWalk (h.anyAccess t₂), hsecond]
  exact hit_agrees_walk_iff hk hpresent

/-- **Transparency of the data TLB.** After a translation by the walk, a second access to the same address
    is answered from the TLB as the walk would have answered it, exactly when the page-table entry already
    records the access: its accessed bit is set unless the access is non-access, its dirty bit if it
    writes. -/
theorem translateDataAddress_transparent_iff {t₁ t₂ : MemoryAccessType}
    (hfirst : translateDataAddress cpu memory va t₁ = .ok (tr, cpu'))
    (hwalk : tr.mechanism = .SHORT_VHPT) :
    ∃ pte hash, readVhptEntry cpu memory va t₁ = .ok (pte, hash) ∧
      (SameOutcome (translateDataAddress cpu' memory va t₂) (translateDataAddress cpu memory va t₂) ↔
        AccessRecorded pte t₂) := by
  obtain ⟨hreach, hwalked⟩ := reachesWalk_of_translate hfirst hwalk
  have hk := validPageShift_of_enabled hreach.enabled
  obtain ⟨pte, hash, hread, hpresent, s, cursor, hcpu⟩ := walk_inv hwalked hk
  exact ⟨pte, hash, hread, sameOutcome_after_walk hreach hread hpresent hcpu t₂⟩

end Walk

/-- A processor in virtual mode whose linear page table is mapped by a translation register at address 0,
    and whose region 0 uses 16 KiB pages. -/
def vhptCpu : CPUState :=
  { CPUState.reset with
    psr := ((1 : UInt64) <<< 17) ||| ((1 : UInt64) <<< 13)
    rr := CPUState.reset.rr.set 0 0x139
    cr := CPUState.reset.cr.set 8 0x3D
    dtr := CPUState.reset.dtr.set 0
      { physicalAddress := 1, virtualAddress := 0, itir := 0x30, regionValue := 0x139, valid := true } }

/-- Its page table: the entry of the second page is present, readable, writable and accessed, but clean. -/
def vhptMemory : FlatMemory := ⟨List.replicate 8 0 ++ [0x21, 0x84, 0, 0, 0, 0, 0, 0]⟩

theorem vhptCpu_reads :
    (translateDataAddress vhptCpu vhptMemory 0x4000 .READ).toOption.isSome = true := by decide +kernel

/-- What the first read of the page returns, and the state it leaves. -/
def vhptFirstRead : IA64AddressTranslation × CPUState :=
  (translateDataAddress vhptCpu vhptMemory 0x4000 .READ).toOption.get vhptCpu_reads

theorem vhptFirstRead_eq :
    translateDataAddress vhptCpu vhptMemory 0x4000 .READ = .ok (vhptFirstRead.1, vhptFirstRead.2) :=
  eq_ok_pair (h := vhptCpu_reads) rfl

theorem vhptFirstRead_walks : vhptFirstRead.1.mechanism = .SHORT_VHPT := by decide +kernel

theorem translateDataAddress_transparent_iff_clean_page :
    ∃ pte hash, readVhptEntry vhptCpu vhptMemory 0x4000 .READ = .ok (pte, hash) ∧
      (SameOutcome (translateDataAddress vhptFirstRead.2 vhptMemory 0x4000 .WRITE)
          (translateDataAddress vhptCpu vhptMemory 0x4000 .WRITE) ↔ AccessRecorded pte .WRITE) :=
  translateDataAddress_transparent_iff vhptFirstRead_eq vhptFirstRead_walks

/-- **A write after a read of a clean page.** The walk would raise a dirty-bit fault; the entry the read
    left in the TLB lets the write through. -/
theorem translateDataAddress_not_transparent :
    ∃ tr cpu', translateDataAddress vhptCpu vhptMemory 0x4000 .READ = .ok (tr, cpu') ∧
      tr.mechanism = .SHORT_VHPT ∧
      ¬ SameOutcome (translateDataAddress cpu' vhptMemory 0x4000 .WRITE)
        (translateDataAddress vhptCpu vhptMemory 0x4000 .WRITE) :=
  ⟨vhptFirstRead.1, vhptFirstRead.2, vhptFirstRead_eq, vhptFirstRead_walks, by decide +kernel⟩

/-! ## Where the walk looks -/

/-- The entry of `va`: in its region, in the table of `PTA`, eight bytes for each page; the table goes round. -/
def vhptEntryAt (pta shift va : Nat) : Nat :=
  let size := 2 ^ (pta / 4 % 64)
  va / 2 ^ 61 * 2 ^ 61 + (pta % 2 ^ 61 / size * size + va / 2 ^ shift * 8 % size)

section Entry
variable (pta : UInt64) {va shift size : UInt64} (hsize : size.toNat ≤ 60)
include hsize

theorem vhptOffset_toNat (hlow : 12 ≤ shift.toNat) (hhigh : shift.toNat ≤ 61) :
    (((va >>> shift) <<< 3) &&& lowMask size).toNat = va.toNat / 2 ^ shift.toNat * 8 % 2 ^ size.toNat := by
  have hpage : va.toNat / 2 ^ shift.toNat ≤ va.toNat / 2 ^ 12 :=
    Nat.div_le_div_left (Nat.pow_le_pow_right (by decide) hlow) (by decide)
  have hva := va.toNat_lt
  rw [and_lowMask_toNat (by omega), UInt64.toNat_shiftLeft, UInt64.toNat_shiftRight,
    Nat.mod_eq_of_lt (by omega : shift.toNat < 64), Nat.shiftRight_eq_div_pow, Nat.shiftLeft_eq]
  exact congrArg (· % _) (Nat.mod_eq_of_lt (by change _ * 8 < _; omega))

/-- The table does not reach past the region. -/
theorem vhptTable_le : pta.toNat % 2 ^ 61 / 2 ^ size.toNat * 2 ^ size.toNat + 2 ^ size.toNat ≤ 2 ^ 61 := by
  have hall : (2 : Nat) ^ 61 = 2 ^ size.toNat * 2 ^ (61 - size.toNat) := by
    rw [← Nat.pow_add, Nat.add_sub_cancel' (by omega)]
  have hroom := Nat.mul_le_mul_left (2 ^ size.toNat)
    (Nat.div_lt_of_lt_mul ((Nat.mod_lt pta.toNat (Nat.two_pow_pos 61)).trans_eq hall))
  rwa [← hall, Nat.mul_succ, Nat.mul_comm] at hroom

theorem vhptBase_toNat : (((pta <<< 3) >>> (size + 3)) <<< size).toNat =
    pta.toNat % 2 ^ 61 / 2 ^ size.toNat * 2 ^ size.toNat := by
  have hpta : (pta <<< 3).toNat = 2 ^ 3 * (pta.toNat % 2 ^ 61) := by
    rw [UInt64.toNat_shiftLeft]
    change pta.toNat <<< 3 % 2 ^ 64 = _
    rw [Nat.shiftLeft_eq]
    omega
  have hsum : (size + 3).toNat = 3 + size.toNat := by
    rw [UInt64.toNat_add]
    change (size.toNat + 3) % _ = _
    omega
  rw [UInt64.toNat_shiftLeft, UInt64.toNat_shiftRight, hpta, hsum, Nat.mod_eq_of_lt (by omega : 3 + size.toNat < 64),
    Nat.mod_eq_of_lt (by omega : size.toNat < 64), Nat.shiftRight_eq_div_pow, Nat.pow_add,
    Nat.mul_div_mul_left _ _ (by decide)]
  rw [Nat.shiftLeft_eq]
  exact Nat.mod_eq_of_lt ((Nat.le_of_add_right_le (vhptTable_le pta hsize)).trans_lt (by decide))

end Entry

/-- **A walk that may start** looks where the table says. -/
theorem vhptAddress_exact {cpu : CPUState} {va : UInt64} {t : MemoryAccessType}
    (h : checkVhptEnabled cpu va t = .ok ()) : ∃ address, computeIA64ShortVhptAddress cpu va = .ok address ∧
      address.toNat = vhptEntryAt (cpu.getCR 8).toNat (pageShiftOf (cpu.getRR (regionOf va))).toNat va.toNat := by
  unfold computeIA64ShortVhptAddress
  unfold checkVhptEnabled at h
  dsimp only at h ⊢
  split at h
  · cases h
  next hvalid =>
  generalize pageShiftOf (cpu.getRR (regionOf va)) = shift at hvalid ⊢
  generalize cpu.getCR 8 = pta at hvalid ⊢
  have hfield : ((pta >>> 2) &&& 0x3F).toNat = pta.toNat / 4 % 64 := by
    rw [show (0x3F : UInt64) = lowMask 6 by decide, and_lowMask_toNat (by decide), UInt64.toNat_shiftRight,
      Nat.shiftRight_eq_div_pow]
    rfl
  rw [vhptEntryAt, ← hfield]
  generalize (pta >>> 2) &&& 0x3F = size at hvalid ⊢
  simp only [not_or, UInt64.not_lt, UInt64.le_iff_toNat_le] at hvalid
  obtain ⟨-, -, hlow, hhigh, hne, hsize⟩ := hvalid
  refine ⟨_, if_neg ?_, ?_⟩
  · simp only [not_or, UInt64.not_lt, UInt64.le_iff_toNat_le]
    exact ⟨hlow, hhigh, hne, hsize.trans (by decide)⟩
  have hregion : (va &&& kVirtualRegionNumberMask).toNat = va.toNat / 2 ^ 61 * 2 ^ 61 := by
    rw [show kVirtualRegionNumberMask = ~~~lowMask 61 by decide, and_not_lowMask_toNat (by decide)]
    rfl
  have hle := vhptTable_le pta hsize
  have hin := Nat.mod_lt (va.toNat / 2 ^ shift.toNat * 8) (Nat.two_pow_pos size.toNat)
  rw [UInt64.toNat_or, UInt64.toNat_or, vhptOffset_toNat hsize hlow hhigh, vhptBase_toNat pta hsize, hregion, Nat.or_assoc,
    ← Nat.shiftLeft_eq _ size.toNat, or_shiftLeft hin, Nat.or_comm, ← Nat.shiftLeft_eq _ 61, or_shiftLeft (by omega),
    Nat.shiftLeft_eq]
  omega

theorem vhptAddress_exact_second_page : ∃ address, computeIA64ShortVhptAddress vhptCpu 0x4000 = .ok address ∧
    address.toNat = vhptEntryAt 0x3D 14 0x4000 :=
  vhptAddress_exact (reachesWalk_of_translate vhptFirstRead_eq vhptFirstRead_walks).1.enabled

end GuideXOS.Core
