import GuideXOS.Isa.LoadImageRollback

/-!
# `FreedPages` — allocations that end

An allocation may be given back at once or after any number of other calls. No other call changes its pages meanwhile
(`Spares`), and the attributes of a page never change, so giving it back makes its pages what they were before it was
made and leaves every other page to the other calls (`pages_returned`).
-/

namespace GuideXOS.Isa
open Lib Lib.Words Lib.Runs Lib.Segments GuideXOS.Core

/-! ## What a change leaves alone -/

/-- Every change of the map gives one range a type. -/
theorem EfiMapChange.retyped {memorySize : UInt64} {m m' : EfiMemoryState} (h : EfiMapInvariant memorySize m)
    (hchange : EfiMapChange m m') : ∃ lo hi type, Retyped lo hi type m.efiMemoryMap m'.efiMemoryMap := by
  obtain ⟨-, heffect⟩ := hchange.effect h
  cases heffect with
  | handedOut a hout => exact ⟨_, _, _, hout.retyped⟩
  | returned a _ hretyped => exact ⟨_, _, _, hretyped⟩

/-- The maps give every address the same attributes. -/
def SameAttributes (map map' : List EfiMemoryDescriptor) : Prop :=
  ∀ x attributes, (∃ type, Labels (segments map') x (type, attributes)) ↔
    ∃ type, Labels (segments map) x (type, attributes)

theorem Retyped.sameAttributes {lo hi : Nat} {type : UInt32} {map map' : List EfiMemoryDescriptor}
    (h : Retyped lo hi type map map') : SameAttributes map map' := by
  intro x attributes
  constructor
  · rintro ⟨t, ht⟩
    obtain ⟨l, hl, heq⟩ := (h x _).mp ht
    split at heq
    · cases heq
      exact ⟨l.1, hl⟩
    · subst heq
      exact ⟨t, hl⟩
  · rintro ⟨t, ht⟩
    by_cases hx : lo ≤ x ∧ x < hi
    · exact ⟨type, (h x _).mpr ⟨(t, attributes), ht, if_pos hx⟩⟩
    · exact ⟨t, (h x _).mpr ⟨(t, attributes), ht, if_neg hx⟩⟩

theorem sameAttributes_of_changes {memorySize : UInt64} {n : Nat} {m m' : EfiMemoryState}
    (h : EfiMapInvariant memorySize m) (hchanges : EfiMapChanges n m m') :
    EfiMapInvariant memorySize m' ∧ SameAttributes m.efiMemoryMap m'.efiMemoryMap := by
  induction hchanges with
  | refl => exact ⟨h, fun _ _ => Iff.rfl⟩
  | step _ hchange ih =>
      obtain ⟨hinv, hsame⟩ := ih h
      obtain ⟨_, _, _, hretyped⟩ := hchange.retyped hinv
      exact ⟨hinv.change hchange, fun x a => (hretyped.sameAttributes x a).trans (hsame x a)⟩

/-- **Giving back.** Pages that were handed out are what they were before, whatever happened to the map meanwhile. -/
theorem HandedOut.returned {physicalEnd : Nat} {map₀ map₁ map₂ map₃ : List EfiMemoryDescriptor} {a : EfiAllocation}
    (h : HandedOut map₀ map₁ a) (hsound : MapSound physicalEnd map₀) (hsame : SameAttributes map₀ map₂)
    (hback : Retyped a.toRange.start a.toRange.stop EFI_MEMORY_CONVENTIONAL map₂ map₃) (x : Nat) (type : UInt32)
    (attributes : UInt64) :
    Describes map₃ x type attributes ↔
      if InRange a.physicalStart a.numberOfPages x then Describes map₀ x type attributes
      else Describes map₂ x type attributes := by
  rw [describes_of_retyped hback]
  by_cases hx : InRange a.physicalStart a.numberOfPages x
  · rw [if_pos hx, if_pos hx]
    simp only [describes_iff]
    rw [hsame x attributes]
    constructor
    · rintro ⟨rfl, t, ht⟩
      have hconv : t = EFI_MEMORY_CONVENTIONAL := h.conventional hsound hx ht
      rw [← hconv]
      exact ht
    · exact fun ht => ⟨h.conventional hsound hx ht, type, ht⟩
  · rw [if_neg hx, if_neg hx]

/-! ## What a call leaves alone -/

/-- The allocation is still on the list that it was on. -/
structure Keeps (a : EfiAllocation) (m m' : EfiMemoryState) : Prop where
  pool : a ∈ m.efiPoolAllocations → a ∈ m'.efiPoolAllocations
  pages : a ∈ m.efiPageAllocations → a ∈ m'.efiPageAllocations

namespace Keeps
variable {a b : EfiAllocation} {m m' m'' : EfiMemoryState}

theorem refl (m : EfiMemoryState) : Keeps a m m := ⟨id, id⟩

theorem trans (h : Keeps a m m') (h' : Keeps a m' m'') : Keeps a m m'' := ⟨h'.pool ∘ h.pool, h'.pages ∘ h.pages⟩

theorem live (h : Keeps a m m') (ha : a ∈ m.liveAllocations) : a ∈ m'.liveAllocations := by
  rcases List.mem_append.mp ha with hpages | hpool
  · exact List.mem_append_left _ (h.pages hpages)
  · exact List.mem_append_right _ (h.pool hpool)

section
variable (m : EfiMemoryState) (map : List EfiMemoryDescriptor) (b : EfiAllocation)

theorem publishPages : Keeps a m (m.publishPages map b) := ⟨id, List.mem_append_left _⟩

theorem publishPool : Keeps a m (m.publishPool map b) := ⟨List.mem_append_left _, id⟩

end

/-- A release takes nothing that starts elsewhere. -/
theorem releasePool (m : EfiMemoryState) {address : UInt64} (hne : a.physicalStart ≠ address) :
    Keeps a m ((m.releasePool address).getD m) := by
  unfold EfiMemoryState.releasePool
  split
  · exact refl m
  · next b hfind =>
    have hb : b.physicalStart = address := by simpa using List.find?_some hfind
    have hab : a ≠ b := by
      rintro rfl
      exact hne hb
    cases replaceEfiMemoryMapRange m.efiMemoryMap b.physicalStart b.numberOfPages EFI_MEMORY_CONVENTIONAL with
    | none => exact refl m
    | some map => exact ⟨(List.mem_erase_of_ne hab).mpr, id⟩

theorem releaseImagePages (m : EfiMemoryState) {physicalStart : UInt64} (hne : a.physicalStart ≠ physicalStart)
    (numberOfPages : UInt64) : Keeps a m ((m.releaseEfiImagePages physicalStart numberOfPages).getD m) := by
  unfold EfiMemoryState.releaseEfiImagePages
  split
  · exact refl m
  · next b hfind =>
    have hb : b.physicalStart = physicalStart ∧ b.numberOfPages = numberOfPages := by simpa using List.find?_some hfind
    have hab : a ≠ b := by
      rintro rfl
      exact hne hb.1
    cases replaceEfiMemoryMapRange m.efiMemoryMap physicalStart numberOfPages EFI_MEMORY_CONVENTIONAL with
    | none => exact refl m
    | some map => exact ⟨id, (List.mem_erase_of_ne hab).mpr⟩

end Keeps

section Services
variable {I M : Type} [IMemory M] {g : EfiHandoffGlobals} {p : IA64ISAPlugin I} {memory : M} {a : EfiAllocation}
  {result : UInt64 × IA64ISAPlugin I × M}

theorem keeps_allocatePages (h : p.memoryMap.BuiltFor (getTotalSize memory)) :
    Keeps a p.memoryMap (handleEfiAllocatePages g p memory).2.1.memoryMap := by
  unfold handleEfiAllocatePages
  dsimp only
  split
  · exact .refl _
  split
  · exact .refl _
  split
  · exact .refl _
  split
  · exact .refl _
  rw [ensureEfiMemoryMap_of_builtFor (p := p.setCounters p.counters.countAllocatePages) g h]
  dsimp only
  split
  · exact .refl _
  split
  · exact .refl _
  split
  · exact .refl _
  split
  · exact .refl _
  split
  · exact .refl _
  split
  · exact .refl _
  exact .publishPages _ _ _

section
variable (h : EfiMapInvariant (getTotalSize memory) p.memoryMap)
include h

theorem keeps_allocatePool (size : UInt64) (type : UInt32) (alignment : UInt64) :
    Keeps a p.memoryMap (allocateEfiPool g p memory size type alignment).2.1.memoryMap := by
  have hready := congrArg Prod.snd (ensureEfiMemoryMap_of_builtFor g h.builtFor)
  rcases allocateEfiPool_cases hready h size type alignment with hrefused | hrefused | ⟨base, map, hallocated⟩
  · rw [hrefused]
    exact .refl _
  · rw [hrefused]
    exact .refl _
  · rw [hallocated.plugin]
    exact .publishPool _ _ _

theorem keeps_allocatePoolStub : Keeps a p.memoryMap (allocatePoolStub g p memory).1.memoryMap := by
  have h' : EfiMapInvariant (getTotalSize memory) (p.setCounters p.counters.countAllocatePool).memoryMap := h
  unfold allocatePoolStub
  dsimp only
  split
  · exact .refl _
  split
  · exact keeps_allocatePool h' _ _ _
  · exact keeps_allocatePool h' _ _ _

theorem keeps_allocateImagePages (numberOfPages : UInt64)
    (type : UInt32) : Keeps a p.memoryMap (allocateEfiImagePages g p memory numberOfPages type).2.memoryMap := by
  have hready := congrArg Prod.snd (ensureEfiMemoryMap_of_builtFor g h.builtFor)
  rcases allocateEfiImagePages_cases hready h numberOfPages type with hrefused | hrefused | ⟨base, map, _, _, hallocated⟩
  · rw [hrefused]
    exact .refl _
  · rw [hrefused]
    exact .refl _
  · rw [hallocated]
    exact .publishPages _ _ _

end

theorem registerChildImage_memoryMap {parentHandle devicePath imageHandleOut protocolAddress imageBase numberOfPages
    imageSize entryPoint globalPointer : UInt64}
    (hresult : registerChildImage g p memory parentHandle devicePath imageHandleOut protocolAddress imageBase
      numberOfPages imageSize entryPoint globalPointer = result) :
    result.2.1.memoryMap = p.memoryMap ∨
      result.2.1.memoryMap = p.memoryMap.releaseLoadImage protocolAddress imageBase numberOfPages := by
  subst hresult
  unfold registerChildImage
  dsimp only
  split
  · exact Or.inr rfl
  · split
    · exact Or.inr rfl
    · exact Or.inl rfl

/-- **`LoadImage` gives back its own allocations only.** -/
theorem keeps_loadImage [LawfulIMemory M] (h : EfiMapInvariant (getTotalSize memory) p.memoryMap)
    (ha : a ∈ p.memoryMap.liveAllocations) {source : Except UInt64 ParsedImage}
    (hresult : handleEfiLoadImage g p memory source = result) : Keeps a p.memoryMap result.2.1.memoryMap := by
  unfold handleEfiLoadImage at hresult
  dsimp only at hresult
  split at hresult
  · exact hresult ▸ .refl _
  split at hresult
  · exact hresult ▸ .refl _
  split at hresult
  · exact hresult ▸ .refl _
  next parsed =>
  split at hresult
  · exact hresult ▸ .refl _
  generalize (parsed.sizeOfImage.toUInt64 + EFI_PAGE_SIZE - 1) / EFI_PAGE_SIZE = numberOfPages at hresult
  have hready := congrArg Prod.snd (ensureEfiMemoryMap_of_builtFor g h.builtFor)
  rcases allocateEfiImagePages_cases hready h numberOfPages EFI_MEMORY_LOADER_CODE with hpages | hpages |
    ⟨imageBase, map₁, himage, h₁, hpages⟩
  · rw [hpages] at hresult
    exact hresult ▸ .refl _
  · rw [hpages] at hresult
    exact hresult ▸ .refl _
  rw [hpages] at hresult
  dsimp only at hresult
  -- what the call has allocated itself begins elsewhere
  have hne : a.physicalStart ≠ imageBase := himage.not_mem h ha
  have hpublished : Keeps a p.memoryMap
      (p.memoryMap.publishPages map₁ ⟨imageBase, numberOfPages, EFI_MEMORY_LOADER_CODE⟩) := .publishPages _ _ _
  have hreleased : ∀ q : IA64ISAPlugin I, Keeps a p.memoryMap q.memoryMap →
      Keeps a p.memoryMap (q.releaseImage imageBase numberOfPages).memoryMap :=
    fun q hq => hq.trans (.releaseImagePages _ hne _)
  split at hresult
  · exact hresult ▸ hpublished
  split at hresult
  · exact hresult ▸ hreleased _ hpublished
  split at hresult
  · exact hresult ▸ hreleased _ hpublished
  next memory₁ hcleared =>
  split at hresult
  · exact hresult ▸ hreleased _ hpublished
  next memory₂ hbytes =>
  have hsize : getTotalSize memory₂ = getTotalSize memory :=
    (LawfulIMemory.getTotalSize_write hbytes).trans (LawfulIMemory.getTotalSize_write hcleared)
  rw [← hsize] at h₁
  have hready₁ := congrArg Prod.snd (ensureEfiMemoryMap_of_builtFor
    (p := p.setMemoryMap (p.memoryMap.publishPages map₁ ⟨imageBase, numberOfPages, EFI_MEMORY_LOADER_CODE⟩)) g
    h₁.builtFor)
  rcases allocateEfiPool_cases hready₁ h₁ 0x60 EFI_MEMORY_BOOT_SERVICES_DATA 0 with hpool | hpool | ⟨base, map₂, hpool⟩
  · rw [hpool] at hresult
    exact hresult ▸ hreleased _ hpublished
  · rw [hpool] at hresult
    exact hresult ▸ hreleased _ hpublished
  obtain ⟨hout, hinv, haddress, hplugin, _⟩ := hpool
  have hnePool : a.physicalStart ≠ base := hout.not_mem h₁ (hpublished.live ha)
  generalize allocateEfiPool g (p.setMemoryMap (p.memoryMap.publishPages map₁ ⟨imageBase, numberOfPages,
    EFI_MEMORY_LOADER_CODE⟩)) memory₂ 0x60 EFI_MEMORY_BOOT_SERVICES_DATA 0 = pool at hresult haddress hplugin
  obtain ⟨protocolAddress, q, memory₃⟩ := pool
  dsimp only at haddress hplugin hresult
  subst haddress hplugin
  have hpublished₂ := hpublished.trans (Keeps.publishPool _ map₂ ⟨protocolAddress,
    (0x60 + EFI_PAGE_SIZE - 1) / EFI_PAGE_SIZE, EFI_MEMORY_BOOT_SERVICES_DATA⟩)
  split at hresult
  · exact hresult ▸ hreleased _ hpublished₂
  · rcases registerChildImage_memoryMap hresult with hmap | hmap
    · rw [hmap]
      exact hpublished₂
    · rw [hmap]
      exact hpublished₂.trans ((Keeps.releasePool _ hnePool).trans (.releaseImagePages _ hne _))

/-! ## Runs between an allocation and its end -/

/-- The call gives nothing back at this address. -/
structure EfiMapCall.Spares (address : UInt64) (call : EfiMapCall M) : Prop where
  freePool : call.service = .freePool → readCallerOutputRegister call.cpu 0 ≠ address
  releaseImagePages : ∀ physicalStart numberOfPages, call.service = .releaseImagePages physicalStart numberOfPages →
    physicalStart ≠ address

/-- **Step lemma.** -/
theorem keeps_step [LawfulIMemory M] {call : EfiMapCall M}
    (h : EfiMapInvariant (getTotalSize call.memory) p.memoryMap) (ha : a ∈ p.memoryMap.liveAllocations)
    (hspares : call.Spares a.physicalStart) : Keeps a p.memoryMap (EfiMapCall.step p call).memoryMap := by
  obtain ⟨globals, cpu, memory, service⟩ := call
  have h' : EfiMapInvariant (getTotalSize memory) (p.setCpu cpu).memoryMap := h
  cases service with
  | ensureMap =>
      show Keeps a _ (ensureEfiMemoryMap globals (p.setCpu cpu) memory).2.memoryMap
      rw [ensureEfiMemoryMap_of_builtFor globals h'.builtFor]
      exact .refl _
  | allocatePages => exact keeps_allocatePages h'.builtFor
  | allocatePoolStub =>
      show Keeps a (p.setCpu cpu).memoryMap (allocatePoolStub globals (p.setCpu cpu) memory).1.memoryMap
      exact keeps_allocatePoolStub h'
  | allocatePool size memoryType alignment =>
      show Keeps a (p.setCpu cpu).memoryMap
        (allocateEfiPool globals (p.setCpu cpu) memory size memoryType alignment).2.1.memoryMap
      exact keeps_allocatePool h' size memoryType alignment
  | freePool =>
      have hne : a.physicalStart ≠ readCallerOutputRegister cpu 0 := (hspares.freePool rfl).symm
      have hkeeps := Keeps.releasePool p.memoryMap hne
      show Keeps a _ (handleEfiFreePool globals (p.setCpu cpu) memory).2.memoryMap
      unfold handleEfiFreePool
      dsimp only
      split
      · exact .refl _
      rw [ensureEfiMemoryMap_of_builtFor (p := (p.setCpu cpu).setCounters (p.setCpu cpu).counters.countFreePool) globals
        h'.builtFor]
      dsimp only
      split
      · exact .refl _
      split
      · exact .refl _
      · next m hrelease =>
        have hrelease : p.memoryMap.releasePool (readCallerOutputRegister cpu 0) = some m := hrelease
        rw [hrelease] at hkeeps
        exact hkeeps
  | loadImage source =>
      show Keeps a (p.setCpu cpu).memoryMap (handleEfiLoadImage globals (p.setCpu cpu) memory source).2.1.memoryMap
      exact keeps_loadImage h' ha rfl
  | allocateImagePages numberOfPages memoryType =>
      show Keeps a (p.setCpu cpu).memoryMap
        (allocateEfiImagePages globals (p.setCpu cpu) memory numberOfPages memoryType).2.memoryMap
      exact keeps_allocateImagePages h' numberOfPages memoryType
  | releaseImagePages physicalStart numberOfPages =>
      exact Keeps.releaseImagePages _ (hspares.releaseImagePages _ _ rfl).symm _

/-- **Run lemma.** An allocation outlives every call that spares it. -/
theorem keeps_run [LawfulIMemory M] {memorySize : UInt64} {calls : List (EfiMapCall M)} :
    ∀ {p : IA64ISAPlugin I}, EfiMapInvariant memorySize p.memoryMap → a ∈ p.memoryMap.liveAllocations →
      (∀ call ∈ calls, getTotalSize call.memory = memorySize ∧ call.Spares a.physicalStart) →
      Keeps a p.memoryMap (run EfiMapCall.step p calls).memoryMap ∧
        ∃ n, EfiMapChanges n p.memoryMap (run EfiMapCall.step p calls).memoryMap := by
  induction calls with
  | nil =>
      intro p _ _ _
      exact ⟨.refl _, 0, .refl _⟩
  | cons call calls ih =>
      intro p h ha hcalls
      obtain ⟨⟨hsize, hspares⟩, hrest⟩ := List.forall_mem_cons.mp hcalls
      subst hsize
      have hkeeps := keeps_step h ha hspares
      have hchanges : EfiMapChanges 4 p.memoryMap (EfiMapCall.step p call).memoryMap := changes_step h.builtFor
      obtain ⟨hkeepsRest, n, hchangesRest⟩ := ih (efiMapInvariant_step h rfl) (hkeeps.live ha) hrest
      exact ⟨hkeeps.trans hkeepsRest, 4 + n, hchanges.trans hchangesRest⟩

/-! ## The end of an allocation -/

/-- The map `after` is as if `a` had never been handed out of `before`: its pages are what they were, and the others are
    as the map says that was there when `a` was given back. -/
def AsIfNever (a : EfiAllocation) (before map after : List EfiMemoryDescriptor) : Prop :=
  ∀ x type attributes, Describes after x type attributes ↔
    if InRange a.physicalStart a.numberOfPages x then Describes before x type attributes
    else Describes map x type attributes

/-- A pool allocation ends with `FreePool` of its address. -/
def PoolReturns (g : EfiHandoffGlobals) (p : IA64ISAPlugin I) (memory : M) : Prop :=
  ∀ (size : UInt64) (type : UInt32) (alignment : UInt64), (allocateEfiPool g p memory size type alignment).1 ≠ 0 →
    ∀ calls : List (EfiMapCall M), (∀ call ∈ calls, getTotalSize call.memory = getTotalSize memory ∧
        call.Spares (allocateEfiPool g p memory size type alignment).1) →
      let q := run EfiMapCall.step (allocateEfiPool g p memory size type alignment).2.1 calls
      ∀ (g' : EfiHandoffGlobals) (cpu : CPUState) (memory' : M), getTotalSize memory' = getTotalSize memory →
        readCallerOutputRegister cpu 0 = (allocateEfiPool g p memory size type alignment).1 →
        (handleEfiFreePool g' (q.setCpu cpu) memory').1 = EFI_STATUS_SUCCESS ∧
          AsIfNever ⟨(allocateEfiPool g p memory size type alignment).1, (size + EFI_PAGE_SIZE - 1) / EFI_PAGE_SIZE, type⟩
            (ensureEfiMemoryMap g p memory).2.memoryMap.efiMemoryMap q.memoryMap.efiMemoryMap
            (handleEfiFreePool g' (q.setCpu cpu) memory').2.memoryMap.efiMemoryMap

/-- Image pages end with their release. -/
def ImagePagesReturn (g : EfiHandoffGlobals) (p : IA64ISAPlugin I) (memory : M) : Prop :=
  ∀ (numberOfPages : UInt64) (type : UInt32), (allocateEfiImagePages g p memory numberOfPages type).1 ≠ 0 →
    ∀ calls : List (EfiMapCall M), (∀ call ∈ calls, getTotalSize call.memory = getTotalSize memory ∧
        call.Spares (allocateEfiImagePages g p memory numberOfPages type).1) →
      let q := run EfiMapCall.step (allocateEfiImagePages g p memory numberOfPages type).2 calls
      ∃ m, q.memoryMap.releaseEfiImagePages (allocateEfiImagePages g p memory numberOfPages type).1 numberOfPages =
          some m ∧
        AsIfNever ⟨(allocateEfiImagePages g p memory numberOfPages type).1, numberOfPages, type⟩
          (ensureEfiMemoryMap g p memory).2.memoryMap.efiMemoryMap q.memoryMap.efiMemoryMap m.efiMemoryMap

/-- `FreePool` of anything else is refused, and counted. At most the map is built. -/
def FreePoolRefuses (g : EfiHandoffGlobals) (p : IA64ISAPlugin I) (memory : M) : Prop :=
  (∀ b ∈ (ensureEfiMemoryMap g p memory).2.memoryMap.efiPoolAllocations,
      b.physicalStart ≠ readCallerOutputRegister p.cpu 0) →
    ∃ q, (q = p ∨ q = (ensureEfiMemoryMap g p memory).2) ∧
      handleEfiFreePool g p memory = (EFI_STATUS_INVALID_PARAMETER, q.setCounters p.counters.countFreePool)

/-- `FreePool` of a live allocation. -/
theorem handleEfiFreePool_of_release (h : p.memoryMap.BuiltFor (getTotalSize memory))
    (hne : readCallerOutputRegister p.cpu 0 ≠ 0) {m : EfiMemoryState}
    (hrelease : p.memoryMap.releasePool (readCallerOutputRegister p.cpu 0) = some m) :
    handleEfiFreePool g p memory =
      (EFI_STATUS_SUCCESS, (p.setCounters p.counters.countFreePool).setMemoryMap m) := by
  have hrelease' : (p.setCounters p.counters.countFreePool).memoryMap.releasePool
      (readCallerOutputRegister (p.setCounters p.counters.countFreePool).cpu 0) = some m := hrelease
  have hne' : readCallerOutputRegister (p.setCounters p.counters.countFreePool).cpu 0 ≠ 0 := hne
  unfold handleEfiFreePool
  dsimp only
  rw [if_neg hne', ensureEfiMemoryMap_of_builtFor (p := p.setCounters p.counters.countFreePool) g h]
  dsimp only
  rw [if_neg (by decide), hrelease']

/-- **`FreePool` ends an allocation** that is still live. -/
theorem freePool_returned {before map₁ : List EfiMemoryDescriptor} {physicalEnd : Nat}
    (hout : HandedOut before map₁ a) (hsound : MapSound physicalEnd before)
    (hsame : SameAttributes before p.memoryMap.efiMemoryMap)
    (h : EfiMapInvariant (getTotalSize memory) p.memoryMap) (hmem : a ∈ p.memoryMap.efiPoolAllocations)
    (hne : a.physicalStart ≠ 0) (hbuffer : readCallerOutputRegister p.cpu 0 = a.physicalStart) :
    (handleEfiFreePool g p memory).1 = EFI_STATUS_SUCCESS ∧
      AsIfNever a before p.memoryMap.efiMemoryMap (handleEfiFreePool g p memory).2.memoryMap.efiMemoryMap := by
  obtain ⟨map₃, hrelease, -, hback⟩ := h.releasePool_of_mem hmem
  rw [← hbuffer] at hrelease hne
  rw [handleEfiFreePool_of_release h.builtFor hne hrelease]
  exact ⟨rfl, hout.returned hsound hsame hback⟩

theorem poolReturns [LawfulIMemory M]
    (h : EfiMapInvariant (getTotalSize memory) (ensureEfiMemoryMap g p memory).2.memoryMap) :
    PoolReturns g p memory := by
  intro size type alignment
  rcases allocateEfiPool_cases rfl h size type alignment with hrefused | hrefused | ⟨base, map, hallocated⟩
  · rw [hrefused]
    exact fun hne => absurd rfl hne
  · rw [hrefused]
    exact fun hne => absurd rfl hne
  obtain ⟨hout, hinv, haddress, hplugin, -⟩ := hallocated
  generalize allocateEfiPool g p memory size type alignment = result at haddress hplugin ⊢
  obtain ⟨address, q, memory₁⟩ := result
  dsimp only at haddress hplugin ⊢
  subst haddress hplugin
  intro hne calls hcalls g' cpu memory' hsize hbuffer
  have hmem : (EfiAllocation.mk address ((size + EFI_PAGE_SIZE - 1) / EFI_PAGE_SIZE) type) ∈
      ((ensureEfiMemoryMap g p memory).2.memoryMap.publishPool map
        ⟨address, (size + EFI_PAGE_SIZE - 1) / EFI_PAGE_SIZE, type⟩).efiPoolAllocations :=
    List.mem_append_right _ (List.mem_singleton_self _)
  obtain ⟨hkeeps, n, hchanges⟩ := keeps_run (p := (ensureEfiMemoryMap g p memory).2.setMemoryMap _) hinv
    (List.mem_append_right _ hmem) hcalls
  obtain ⟨hinv₂, hsame⟩ := sameAttributes_of_changes hinv hchanges
  exact freePool_returned hout h.sound (fun x t => (hsame x t).trans (hout.retyped.sameAttributes x t))
    (hsize ▸ hinv₂) (hkeeps.pool hmem) hne hbuffer

theorem imagePagesReturn [LawfulIMemory M]
    (h : EfiMapInvariant (getTotalSize memory) (ensureEfiMemoryMap g p memory).2.memoryMap) :
    ImagePagesReturn g p memory := by
  intro numberOfPages type
  rcases allocateEfiImagePages_cases rfl h numberOfPages type with hrefused | hrefused | ⟨base, map, hout, hinv, hallocated⟩
  · rw [hrefused]
    exact fun hne => absurd rfl hne
  · rw [hrefused]
    exact fun hne => absurd rfl hne
  rw [hallocated]
  intro hne calls hcalls
  have hmem : (EfiAllocation.mk base numberOfPages type) ∈ ((ensureEfiMemoryMap g p memory).2.memoryMap.publishPages map
      ⟨base, numberOfPages, type⟩).efiPageAllocations := List.mem_append_right _ (List.mem_singleton_self _)
  obtain ⟨hkeeps, n, hchanges⟩ := keeps_run (p := (ensureEfiMemoryMap g p memory).2.setMemoryMap _) hinv
    (List.mem_append_left _ hmem) hcalls
  obtain ⟨hinv₂, hsame⟩ := sameAttributes_of_changes hinv hchanges
  obtain ⟨map₃, hrelease, -, hback⟩ := hinv₂.releaseImage_of_mem (hkeeps.pages hmem)
  refine ⟨_, hrelease, ?_⟩
  exact hout.returned h.sound (fun x t => (hsame x t).trans (hout.retyped.sameAttributes x t)) hback

theorem freePoolRefuses : FreePoolRefuses g p memory := by
  intro hnone
  have hensure : ensureEfiMemoryMap g (p.setCounters p.counters.countFreePool) memory =
      ((ensureEfiMemoryMap g p memory).1,
        (ensureEfiMemoryMap g p memory).2.setCounters p.counters.countFreePool) := by
    unfold ensureEfiMemoryMap
    dsimp only [IA64ISAPlugin.memoryMap_setCounters]
    by_cases hbuilt : p.memoryMap.efiMemoryMapInitialized = true ∧
        p.memoryMap.efiMemoryMapMemorySize = getTotalSize memory
    · simp only [hbuilt, and_self, if_true]
    · by_cases hsmall : getTotalSize memory < EFI_PAGE_SIZE
      · simp only [hbuilt, hsmall, if_false, if_true]
        rfl
      · simp only [hbuilt, hsmall, if_false]
        rfl
  unfold handleEfiFreePool
  dsimp only
  rw [hensure]
  dsimp only
  split
  · exact ⟨p, Or.inl rfl, rfl⟩
  split
  · exact ⟨_, Or.inr rfl, rfl⟩
  have hfind : ((ensureEfiMemoryMap g p memory).2.setCounters p.counters.countFreePool).memoryMap.releasePool
      (readCallerOutputRegister (p.setCounters p.counters.countFreePool).cpu 0) = none := by
    have hnot : (ensureEfiMemoryMap g p memory).2.memoryMap.efiPoolAllocations.find?
        (fun b => b.physicalStart = readCallerOutputRegister p.cpu 0) = none :=
      List.find?_eq_none.mpr fun b hb => by simpa using hnone b hb
    rw [EfiMemoryState.releasePool]
    rw [show ((ensureEfiMemoryMap g p memory).2.setCounters p.counters.countFreePool).memoryMap.efiPoolAllocations.find?
      (fun b => b.physicalStart = readCallerOutputRegister (p.setCounters p.counters.countFreePool).cpu 0) = none
        from hnot]
  rw [hfind]
  exact ⟨_, Or.inr rfl, rfl⟩

/-- **Pages are returned completely**, and `FreePool` returns nothing else. -/
theorem pages_returned [LawfulIMemory M] : ∀ (g : EfiHandoffGlobals) (p : IA64ISAPlugin I) (memory : M),
    EfiMapInvariant (getTotalSize memory) (ensureEfiMemoryMap g p memory).2.memoryMap →
    PoolReturns g p memory ∧ ImagePagesReturn g p memory ∧ FreePoolRefuses g p memory := by
  intro g p memory h
  exact ⟨poolReturns h, imagePagesReturn h, freePoolRefuses⟩

end Services

/-- Two mebibytes of guest memory, the upper half mostly free. -/
def smallMemory : SparseMemory := ⟨0x200000, fun _ => 0⟩

/-- A pool allocation of 0x60 bytes, an allocation of image pages, and `FreePool` of the first. -/
theorem pages_returned_pool :
    (handleEfiFreePool resetEfiHandoffLayoutGlobals ((run EfiMapCall.step
      (allocateEfiPool resetEfiHandoffLayoutGlobals newPlugin smallMemory 0x60 EFI_MEMORY_BOOT_SERVICES_DATA 0).2.1
        [⟨resetEfiHandoffLayoutGlobals, .reset, smallMemory, .allocateImagePages 2 EFI_MEMORY_LOADER_CODE⟩]).setCpu
      (CPUState.reset.setGR 32 (allocateEfiPool resetEfiHandoffLayoutGlobals newPlugin smallMemory 0x60
        EFI_MEMORY_BOOT_SERVICES_DATA 0).1)) smallMemory).1 = EFI_STATUS_SUCCESS := by
  have hreturned := pages_returned resetEfiHandoffLayoutGlobals newPlugin smallMemory (efiMapInvariant_ensure _ rfl)
  refine (hreturned.1 0x60 EFI_MEMORY_BOOT_SERVICES_DATA 0 (by decide +kernel) _ ?_ _ _ _ rfl
    (by decide +kernel)).1
  refine List.forall_mem_singleton.mpr ⟨rfl, ?_, ?_⟩
  · exact fun h => nomatch h
  · exact fun _ _ h => nomatch h

end GuideXOS.Isa
