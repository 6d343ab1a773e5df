import GuideXOS.Isa.FileProtocol
import GuideXOS.Isa.FreedPages

/-!
# `FileHandles` — the pool pages behind file handles

`Open` puts the protocol table of a handle into a page of the EFI pool. `Close` forgets the handle and leaves the page
allocated, so the pool grows by a page with every `Open` that gets as far as allocating one, and never shrinks. A
sequence of calls leaves the pool as it was exactly when none of its calls allocates (`fileHandles_leak`).
-/

namespace GuideXOS.Isa
open Lib Lib.Words Lib.Runs Lib.Segments GuideXOS.Core

section Services
variable {I M : Type} [IMemory M]

/-! ## The calls -/

inductive FileHandleService
  | openFile
  | closeFile
  deriving DecidableEq

/-- A call, with the processor and the guest memory it finds. -/
structure FileHandleCall (M : Type) where
  globals : EfiHandoffGlobals
  cpu : CPUState
  memory : M
  service : FileHandleService

namespace FileHandleCall

def step (fat : FATParser) (p : IA64ISAPlugin I) (call : FileHandleCall M) : IA64ISAPlugin I :=
  match call.service with
  | .openFile => (handleEfiFileOpen call.globals fat (p.setCpu call.cpu) call.memory).1
  | .closeFile => (handleEfiFileClose call.globals (p.setCpu call.cpu) call.memory).2.1

variable (call : FileHandleCall M)

def thisProtocol : UInt64 := readCallerOutputRegister call.cpu 0

def newHandleOut : UInt64 := readCallerOutputRegister call.cpu 1

def openMode : UInt64 := readCallerOutputRegister call.cpu 3

/-- The path that `Open` looks for. -/
def path (p : IA64ISAPlugin I) (call : FileHandleCall M) : ByteString :=
  joinEfiPath (((p.services.efiFileHandles.find? call.thisProtocol).map (·.path)).getD [])
    (readUtf16AsciiString call.memory (readCallerOutputRegister call.cpu 2))

/-- `Open` accepts its arguments and finds the file. -/
structure FindsFile (fat : FATParser) (p : IA64ISAPlugin I) (call : FileHandleCall M) : Prop where
  service : call.service = .openFile
  arguments : ¬(call.newHandleOut = 0 ∨ call.openMode &&& ~~~1 ≠ 0)
  volume : (ensureEfiBootFat fat.parse call.globals call.memory p.services.boot).1 = true
  found : (fat.lookup ((ensureEfiBootFat fat.parse call.globals call.memory p.services.boot).2.efiBootFat.getD [])
    (call.path p)).isSome

/-- There is a free page, and it can be cleared. -/
def HasPage (p : IA64ISAPlugin I) (call : FileHandleCall M) : Prop :=
  ∃ selected base memory', selectDescriptor (fitsPool 1 16) p.memoryMap.efiMemoryMap = some (selected, base) ∧
    IMemory.write call.memory base (List.replicate 4096 0) = .ok memory'

/-- **The call allocates**: an `Open` that finds its file while there is a page for the table. -/
def Allocates (fat : FATParser) (p : IA64ISAPlugin I) (call : FileHandleCall M) : Prop :=
  call.FindsFile fat p ∧ call.HasPage p

end FileHandleCall

variable {fat : FATParser} {p : IA64ISAPlugin I} {call : FileHandleCall M} {memorySize : UInt64}

/-! ## What `Open` does to the pool -/

/-- The tables are those that the pool allocation leaves, where there is one. -/
theorem memoryMap_open (hservice : call.service = .openFile) :
    (call.FindsFile fat p → ∃ q : IA64ISAPlugin I, q.memoryMap = p.memoryMap ∧
        (call.step fat p).memoryMap =
          (allocateEfiPool call.globals q call.memory 0x60 EFI_MEMORY_BOOT_SERVICES_DATA 0).2.1.memoryMap) ∧
      (¬ call.FindsFile fat p → (call.step fat p).memoryMap = p.memoryMap) := by
  have hstep : call.step fat p = (handleEfiFileOpen call.globals fat (p.setCpu call.cpu) call.memory).1 := by
    unfold FileHandleCall.step
    rw [hservice]
  have hsame : ∀ q : IA64ISAPlugin I, call.step fat p = q → q.memoryMap = p.memoryMap →
      (call.step fat p).memoryMap = p.memoryMap := by
    rintro _ rfl h
    exact h
  unfold handleEfiFileOpen at hstep
  dsimp only at hstep
  generalize hq : (p.setCpu call.cpu).setCounters (p.setCpu call.cpu).counters.countFileOpen = q at hstep
  have hcpu : q.cpu = call.cpu := by rw [← hq]; rfl
  have hservices : q.services = p.services := by rw [← hq]; rfl
  have htables : q.memoryMap = p.memoryMap := by rw [← hq]; rfl
  rw [hcpu, hservices] at hstep
  -- the table is allocated behind the arguments, the volume and the lookup
  by_cases harguments : call.newHandleOut = 0 ∨ call.openMode &&& ~~~1 ≠ 0
  · rw [if_pos (show readCallerOutputRegister call.cpu 1 = 0 ∨ readCallerOutputRegister call.cpu 3 &&& ~~~1 ≠ 0
      from harguments)] at hstep
    exact ⟨fun h => absurd harguments h.arguments, fun _ => hsame q hstep htables⟩
  rw [if_neg (show ¬(readCallerOutputRegister call.cpu 1 = 0 ∨ readCallerOutputRegister call.cpu 3 &&& ~~~1 ≠ 0)
    from harguments)] at hstep
  cases hvolume : ensureEfiBootFat fat.parse call.globals call.memory p.services.boot with
  | mk ready boot =>
  rw [hvolume] at hstep
  cases ready with
  | false =>
      refine ⟨fun h => ?_, fun _ => hsame _ hstep htables⟩
      have hready := h.volume
      rw [hvolume] at hready
      exact absurd hready Bool.false_ne_true
  | true =>
  dsimp only at hstep
  rw [if_neg (by decide : ¬ (!true) = true)] at hstep
  have hkeptFiles : (q.setBoot boot).services.efiFileHandles = p.services.efiFileHandles := by
    rw [← hservices]
    rfl
  rw [hkeptFiles] at hstep
  cases hlookup : fat.lookup (boot.efiBootFat.getD []) (call.path p) with
  | none =>
      have hlookup' : fat.lookup (boot.efiBootFat.getD []) (joinEfiPath
        (((p.services.efiFileHandles.find? (readCallerOutputRegister call.cpu 0)).map (·.path)).getD [])
        (readUtf16AsciiString call.memory (readCallerOutputRegister call.cpu 2))) = none := hlookup
      rw [hlookup'] at hstep
      refine ⟨fun h => ?_, fun _ => hsame _ hstep htables⟩
      have hfound := h.found
      rw [hvolume, hlookup] at hfound
      exact absurd hfound Bool.false_ne_true
  | some found =>
      have hlookup' : fat.lookup (boot.efiBootFat.getD []) (joinEfiPath
        (((p.services.efiFileHandles.find? (readCallerOutputRegister call.cpu 0)).map (·.path)).getD [])
        (readUtf16AsciiString call.memory (readCallerOutputRegister call.cpu 2))) = some found := hlookup
      rw [hlookup'] at hstep
      refine ⟨fun _ => ⟨q.setBoot boot, htables, ?_⟩, fun h => absurd ⟨hservice, harguments, ?_, ?_⟩ h⟩
      · rw [hstep]
        dsimp only
        split
        · rfl
        · split <;> rfl
      · rw [hvolume]
      · rw [hvolume, hlookup]
        rfl

/-- The allocation for a table: one page, if there is one. -/
theorem allocateEfiPool_table {g : EfiHandoffGlobals} {q : IA64ISAPlugin I} {memory : M}
    (h : EfiMapInvariant memorySize q.memoryMap) (hsize : getTotalSize memory = memorySize) :
    ((∃ selected base memory', selectDescriptor (fitsPool 1 16) q.memoryMap.efiMemoryMap = some (selected, base) ∧
        IMemory.write memory base (List.replicate 4096 0) = .ok memory') →
      ∃ a map, (allocateEfiPool g q memory 0x60 EFI_MEMORY_BOOT_SERVICES_DATA 0).2.1.memoryMap =
          q.memoryMap.publishPool map a ∧ HandedOut q.memoryMap.efiMemoryMap map a ∧
        EfiMapInvariant memorySize (q.memoryMap.publishPool map a)) ∧
    ((¬ ∃ selected base memory', selectDescriptor (fitsPool 1 16) q.memoryMap.efiMemoryMap = some (selected, base) ∧
        IMemory.write memory base (List.replicate 4096 0) = .ok memory') →
      (allocateEfiPool g q memory 0x60 EFI_MEMORY_BOOT_SERVICES_DATA 0).2.1.memoryMap = q.memoryMap) := by
  subst hsize
  have hready := ensureEfiMemoryMap_of_builtFor g h.builtFor
  have hpages : ((0x60 : UInt64) + EFI_PAGE_SIZE - 1) / EFI_PAGE_SIZE = 1 := by decide
  have hbytes : (1 * EFI_PAGE_SIZE).toNat = 4096 := by decide
  unfold allocateEfiPool
  dsimp only
  rw [if_pos rfl, if_neg (by decide), if_neg (by decide), hready]
  dsimp only
  rw [hpages, if_neg (by decide), hbytes]
  cases hselect : selectDescriptor (fitsPool 1 16) q.memoryMap.efiMemoryMap with
  | none =>
      refine ⟨?_, fun _ => rfl⟩
      rintro ⟨_, _, _, hsome, -⟩
      cases hsome
  | some selected =>
      obtain ⟨selected, base⟩ := selected
      dsimp only
      cases hwrite : IMemory.write memory base (List.replicate 4096 0) with
      | error e =>
          refine ⟨?_, fun _ => rfl⟩
          rintro ⟨_, _, _, hsome, hok⟩
          cases hsome
          rw [hwrite] at hok
          cases hok
      | ok memory' =>
          obtain ⟨d, hget, hfits⟩ := selectDescriptor_some hselect
          have hd := h.sound.wellFormed d (List.mem_of_getElem? hget)
          have hin := fitsIn_pool hd (by decide) (by decide) hfits
          obtain ⟨map, hmap, -, hout⟩ := handedOut_of_fitsIn h.sound hget hin (by decide) EFI_MEMORY_BOOT_SERVICES_DATA
          rw [hmap]
          refine ⟨fun _ => ⟨_, map, rfl, hout, ?_⟩, fun hnone => absurd ⟨selected, base, memory', rfl, hwrite⟩ hnone⟩
          exact h.change (.allocatePool (by decide) (by decide) (by decide) hselect hmap)

/-! ## Runs -/

/-- **Step lemma.** A call that allocates adds a new allocation; any other call leaves the tables alone. -/
theorem memoryMap_step (h : EfiMapInvariant memorySize p.memoryMap) (hsize : getTotalSize call.memory = memorySize) :
    (call.Allocates fat p → EfiMapInvariant memorySize (call.step fat p).memoryMap ∧
        ∃ a map, a ∉ p.memoryMap.efiPoolAllocations ∧ (call.step fat p).memoryMap = p.memoryMap.publishPool map a) ∧
      (¬ call.Allocates fat p → (call.step fat p).memoryMap = p.memoryMap) := by
  cases hservice : call.service with
  | closeFile =>
      have hkept : (call.step fat p).memoryMap = p.memoryMap := by
        unfold FileHandleCall.step handleEfiFileClose
        rw [hservice]
        dsimp only
        split <;> rfl
      refine ⟨fun hallocates => ?_, fun _ => hkept⟩
      exact absurd (hallocates.1.service.symm.trans hservice) (by decide)
  | openFile =>
      have hopen : (call.FindsFile fat p → ∃ q : IA64ISAPlugin I, q.memoryMap = p.memoryMap ∧
          (call.step fat p).memoryMap =
            (allocateEfiPool call.globals q call.memory 0x60 EFI_MEMORY_BOOT_SERVICES_DATA 0).2.1.memoryMap) ∧
          (¬ call.FindsFile fat p → (call.step fat p).memoryMap = p.memoryMap) := memoryMap_open hservice
      by_cases hfinds : call.FindsFile fat p
      case neg => exact ⟨fun hallocates => absurd hallocates.1 hfinds, fun _ => hopen.2 hfinds⟩
      obtain ⟨q, hq, hstep⟩ := hopen.1 hfinds
      obtain ⟨hpage, hnoPage⟩ := allocateEfiPool_table (g := call.globals) (hq ▸ h) hsize
      rw [hstep]
      rw [hq] at hpage hnoPage
      refine ⟨fun hallocates => ?_, fun hnot => hnoPage fun hhas => hnot ⟨hfinds, hhas⟩⟩
      obtain ⟨a, map, hpublished, hout, hinv⟩ := hpage hallocates.2
      rw [hpublished]
      exact ⟨hinv, a, map, fun ha => hout.not_mem h (List.mem_append_right _ ha) rfl, rfl⟩

/-- The live pool allocations and the page types are the same. -/
structure SamePool (m m' : EfiMemoryState) : Prop where
  allocations : ∀ a, a ∈ m'.efiPoolAllocations ↔ a ∈ m.efiPoolAllocations
  pages : ∀ x t attributes, Describes m'.efiMemoryMap x t attributes ↔ Describes m.efiMemoryMap x t attributes

/-- **Run lemma.** The pool never shrinks, and an allocation in the run is in it at the end. -/
theorem pool_run (fat : FATParser) {calls : List (FileHandleCall M)}
    (hcalls : ∀ call ∈ calls, getTotalSize call.memory = memorySize) :
    ∀ {p : IA64ISAPlugin I}, EfiMapInvariant memorySize p.memoryMap →
      (∀ a ∈ p.memoryMap.efiPoolAllocations,
        a ∈ (run (FileHandleCall.step fat) p calls).memoryMap.efiPoolAllocations) ∧
      (EveryStep (FileHandleCall.step fat) (fun p call => ¬ call.Allocates fat p) p calls ∨
        ∃ a ∈ (run (FileHandleCall.step fat) p calls).memoryMap.efiPoolAllocations,
          a ∉ p.memoryMap.efiPoolAllocations) := by
  induction calls with
  | nil => exact fun _ => ⟨fun _ ha => ha, Or.inl trivial⟩
  | cons call calls ih =>
      intro p h
      obtain ⟨hsize, hrest⟩ := List.forall_mem_cons.mp hcalls
      have hstep : (call.Allocates fat p → EfiMapInvariant memorySize (call.step fat p).memoryMap ∧ ∃ a map,
          a ∉ p.memoryMap.efiPoolAllocations ∧ (call.step fat p).memoryMap = p.memoryMap.publishPool map a) ∧
          (¬ call.Allocates fat p → (call.step fat p).memoryMap = p.memoryMap) := memoryMap_step h hsize
      rw [run_cons]
      by_cases hallocates : call.Allocates fat p
      · obtain ⟨hinv, a, map, hnew, htables⟩ := hstep.1 hallocates
        obtain ⟨hkeep, -⟩ := ih hrest hinv
        rw [htables] at hkeep
        refine ⟨fun b hb => hkeep b (List.mem_append_left _ hb), Or.inr ⟨a, hkeep a ?_, hnew⟩⟩
        exact List.mem_append_right _ List.mem_cons_self
      · have htables := hstep.2 hallocates
        obtain ⟨hkeep, hlater⟩ := ih hrest (p := call.step fat p) (htables ▸ h)
        rw [htables] at hkeep hlater
        exact ⟨hkeep, hlater.imp_left fun hevery => ⟨hallocates, hevery⟩⟩

/-- **File handles leak pool pages.** A sequence of `Open` and `Close` calls, whether or not every handle is closed
    again, leaves the pool and the page types as they were exactly when none of its `Open` calls allocates. -/
theorem fileHandles_leak : ∀ (fat : FATParser) (p : IA64ISAPlugin I) (memorySize : UInt64)
    (calls : List (FileHandleCall M)),
    EfiMapInvariant memorySize p.memoryMap → (∀ call ∈ calls, getTotalSize call.memory = memorySize) →
    (SamePool p.memoryMap (run (FileHandleCall.step fat) p calls).memoryMap ↔
      EveryStep (FileHandleCall.step fat) (fun p call => ¬ call.Allocates fat p) p calls) := by
  intro fat p memorySize calls h hcalls
  constructor
  · intro hsame
    rcases (pool_run fat hcalls h).2 with hevery | ⟨a, ha, hnew⟩
    · exact hevery
    · exact absurd ((hsame.allocations a).mp ha) hnew
  · intro hevery
    have hforall : EveryStep (FileHandleCall.step fat) (fun _ call => getTotalSize call.memory = memorySize) p calls :=
      everyStep_of_forall hcalls
    have hkept : (run (FileHandleCall.step fat) p calls).memoryMap = p.memoryMap := by
      refine run_invariant (fun q : IA64ISAPlugin I => q.memoryMap = p.memoryMap) (fun q call hq hcall => ?_) rfl
        (everyStep_and hforall hevery)
      exact ((memoryMap_step (hq ▸ h) hcall.1).2 hcall.2).trans hq
    rw [hkept]
    exact ⟨fun _ => Iff.rfl, fun _ _ _ => Iff.rfl⟩

end Services

/-- A volume on which every file is found and empty. -/
def emptyFiles : FATParser where
  parse _ := true
  findFile _ path := some ⟨path, false, 0, 0, 0⟩
  readFile _ _ := some []
  listDirectory _ _ := some []

/-- A plugin with the volume, whose memory map is built. -/
def volumeReader : IA64ISAPlugin Unit :=
  (ensureEfiMemoryMap resetEfiHandoffLayoutGlobals newPlugin smallMemory).2.setBoot { efiBootFat := some [] }

/-- `Open` of the root directory, with the handle stored at `0x10`. -/
def openRoot (newHandleOut : UInt64) : FileHandleCall SparseMemory :=
  ⟨resetEfiHandoffLayoutGlobals, (CPUState.reset.setGR 33 newHandleOut).setGR 35 1, smallMemory, .openFile⟩

def closeHandle (thisProtocol : UInt64) : FileHandleCall SparseMemory :=
  ⟨resetEfiHandoffLayoutGlobals, CPUState.reset.setGR 32 thisProtocol, smallMemory, .closeFile⟩

/-- An `Open` that is refused, and a `Close`. -/
theorem fileHandles_leak_refused :
    SamePool volumeReader.memoryMap
      (run (FileHandleCall.step emptyFiles) volumeReader [openRoot 0, closeHandle 0x1AF000]).memoryMap := by
  have hinv : EfiMapInvariant (getTotalSize smallMemory) volumeReader.memoryMap :=
    efiMapInvariant_ensure resetEfiHandoffLayoutGlobals rfl
  have hopen : (openRoot 0).newHandleOut = 0 := by decide +kernel
  refine (fileHandles_leak emptyFiles volumeReader (getTotalSize smallMemory) _ hinv ?_).mpr
    ⟨fun hallocates => hallocates.1.arguments (Or.inl hopen),
      fun hallocates => absurd hallocates.1.service (by decide), trivial⟩
  intro call hcall
  rcases List.mem_pair.mp hcall with rfl | rfl <;> rfl

/-- The root directory is opened and closed: the handle is gone, and its page is not. -/
theorem closed_handle_leaks :
    (run (FileHandleCall.step emptyFiles) volumeReader [openRoot 0x10]).services.efiFileHandles.entries.map Prod.fst =
        [0x1AF000] ∧
      (run (FileHandleCall.step emptyFiles) volumeReader
        [openRoot 0x10, closeHandle 0x1AF000]).services.efiFileHandles.entries =
          volumeReader.services.efiFileHandles.entries ∧
      ¬ SamePool volumeReader.memoryMap
        (run (FileHandleCall.step emptyFiles) volumeReader [openRoot 0x10, closeHandle 0x1AF000]).memoryMap := by
  refine ⟨by decide +kernel, by decide +kernel, fun hsame => ?_⟩
  have hpage : (⟨0x1AF000, 1, EFI_MEMORY_BOOT_SERVICES_DATA⟩ : EfiAllocation) ∈ (run (FileHandleCall.step emptyFiles)
      volumeReader [openRoot 0x10, closeHandle 0x1AF000]).memoryMap.efiPoolAllocations := by decide +kernel
  have hbefore : volumeReader.memoryMap.efiPoolAllocations = [] := by decide +kernel
  have hmem := (hsame.allocations _).mp hpage
  rw [hbefore] at hmem
  cases hmem

end GuideXOS.Isa
