import GuideXOS.Isa.Decode
import GuideXOS.Isa.EfiMemoryMap

/-!
# `Step` — one step of a plugin, and what it does not see

`step` puts the layout in place, services a pending interrupt, decodes, and executes. Execution proper is a
parameter: a function of the process-wide addresses, the plugin and the guest memory.

Two fields of a plugin hold what can be computed again: the decoded bundle, once it is no longer valid, and the FAT
parser over the boot image. A step reaches the first only through `decode` and the second only through
`ensureEfiBootFat`. `SameMachine` relates plugins that differ in nothing else and for which `ensureEfiBootFat`
gives the same; `sameMachine_step` and `runSteps_sameMachine` say that no step, and no run, tells them apart.

* The FAT parser itself is a parameter, `parseFat`: whether a byte string is a FAT volume.
-/

namespace GuideXOS.Isa
open Lib Lib.Words GuideXOS.Core

/-! ## The boot volume -/

def kMaxBootImageBytes : UInt64 := 64 * 1024 * 1024

section BootVolume
variable {M : Type} [IMemory M]

/-- The boot image that guest memory describes, if its metadata is there and makes sense: where it is and how
    long. -/
def bootImageMetadata (g : EfiHandoffGlobals) (memory : M) : Option (UInt64 × UInt64) :=
  match readGuestU64 memory g.EFI_BOOT_IMAGE_METADATA_ADDR,
      readGuestU64 memory (g.EFI_BOOT_IMAGE_METADATA_ADDR + 8),
      readGuestU64 memory (g.EFI_BOOT_IMAGE_METADATA_ADDR + 16) with
  | some signature, some base, some size =>
      if signature ≠ EFI_BOOT_IMAGE_METADATA_SIGNATURE ∨ base = 0 ∨ size = 0 ∨ size > kMaxBootImageBytes then none
      else some (base, size)
  | _, _, _ => none

/-- The parser over an image. -/
def EfiBootVolume.mount (parseFat : List UInt8 → Bool) (v : EfiBootVolume) : Bool × EfiBootVolume :=
  if parseFat v.efiBootImage then (true, { v with efiBootFat := some v.efiBootImage })
  else (false, { v with efiBootFat := none })

/-- **`ensureEfiBootFat`.** The parser that is there is kept; else one is built over the image of the VM
    manager, else over an image in guest memory. -/
def ensureEfiBootFat (parseFat : List UInt8 → Bool) (g : EfiHandoffGlobals) (memory : M) (v : EfiBootVolume) :
    Bool × EfiBootVolume :=
  if v.efiBootFat.isSome then (true, v)
  else if v.efiBootImageFromVmManager ∧ v.efiBootImage ≠ [] then v.mount parseFat
  else
    match bootImageMetadata g memory with
    | none => (false, v)
    | some (base, size) =>
        match IMemory.read memory base size.toNat with
        | .error _ => (false, { v with efiBootImage := [] })
        | .ok data =>
            EfiBootVolume.mount parseFat { v with efiBootImage := data, efiBootImageFromVmManager := false }

end BootVolume

/-! ## The step function -/

inductive ISAExecutionResult
  | CONTINUE
  | HALT
  | EXCEPTION
  | INTERRUPT
  | SYSCALL
  | BREAKPOINT
  deriving DecidableEq

/-- A plugin with the guest memory it runs on and the addresses of its process. -/
structure Machine (I M : Type) where
  globals : EfiHandoffGlobals
  plugin : IA64ISAPlugin I
  memory : M

/-- Execution of the decoded instruction, up to and including the firmware services it calls. -/
abbrev Execute (I M : Type) := EfiHandoffGlobals → IA64ISAPlugin I → M → ISAExecutionResult × IA64ISAPlugin I × M

section Step
variable {I M : Type} [IMemory M]

/-- **`step`.** -/
def step (decodeBundleAt : List UInt8 → UInt64 → Option (Bundle I)) (execute : Execute I M) (m : Machine I M) :
    ISAExecutionResult × Machine I M :=
  let (globals, p) := m.plugin.ensureEfiHandoffLayout (getTotalSize m.memory) m.globals
  let p := p.servicePendingInterrupt.2
  match p.decode globals decodeBundleAt m.memory with
  | (false, p) => (.EXCEPTION, ⟨globals, p, m.memory⟩)
  | (true, p) =>
      let (result, p, memory) := execute globals p m.memory
      (result, ⟨globals, p, memory⟩)

/-- The results of `n` steps, and the machine after them. -/
def runSteps (decodeBundleAt : List UInt8 → UInt64 → Option (Bundle I)) (execute : Execute I M) :
    Nat → Machine I M → List ISAExecutionResult × Machine I M
  | 0, m => ([], m)
  | n + 1, m =>
      let first := step decodeBundleAt execute m
      let rest := runSteps decodeBundleAt execute n first.2
      (first.1 :: rest.1, rest.2)

end Step

/-! ## Plugins that no step tells apart -/

namespace IA64ISAPlugin
variable {I : Type}

/-- A plugin with another decoded bundle and another FAT parser. -/
def withTransient (p : IA64ISAPlugin I) (bundle : Bundle I) (fat : Option (List UInt8)) : IA64ISAPlugin I :=
  { p with
    state := { p.state with currentBundle := bundle }
    services := { p.services with boot := { p.services.boot with efiBootFat := fat } } }

end IA64ISAPlugin

variable (parseFat : List UInt8 → Bool)

/-- File access finds the same volume through either. -/
def SameVolume (v w : EfiBootVolume) : Prop :=
  ∀ {M : Type} [IMemory M] (g : EfiHandoffGlobals) (memory : M),
    ensureEfiBootFat parseFat g memory v = ensureEfiBootFat parseFat g memory w

/-- **The same machine**: `q` is `p` up to a bundle that `decode` replaces and a parser that
    `ensureEfiBootFat` builds again. -/
def SameMachine {I : Type} (q p : IA64ISAPlugin I) : Prop :=
  ∃ bundle fat, q = p.withTransient bundle fat ∧
    (p.state.bundleValid = true → bundle = p.state.currentBundle) ∧
    SameVolume parseFat q.services.boot p.services.boot

/-- What `ensureEfiBootFat` can build a lost parser from again, whatever guest memory holds by then. -/
def EfiBootVolume.Remountable (v : EfiBootVolume) : Prop :=
  v.efiBootFat = none ∨
    (v.efiBootImageFromVmManager = true ∧ v.efiBootImage ≠ [] ∧ v.efiBootFat = some v.efiBootImage ∧
      parseFat v.efiBootImage = true)

theorem sameVolume_forget_iff {parseFat : List UInt8 → Bool} {v : EfiBootVolume} :
    SameVolume parseFat { v with efiBootFat := none } v ↔ v.Remountable parseFat := by
  obtain ⟨image, fromVmManager, fat⟩ := v
  cases fat with
  | none => exact ⟨fun _ => .inl rfl, fun _ _ _ _ _ => rfl⟩
  | some mounted =>
      constructor
      · intro h
        -- a guest memory without any metadata
        have hempty : ensureEfiBootFat parseFat ⟨0⟩ (FlatMemory.mk []) ⟨image, fromVmManager, none⟩ =
            (true, ⟨image, fromVmManager, some mounted⟩) := h ⟨0⟩ (FlatMemory.mk [])
        unfold ensureEfiBootFat at hempty
        rw [if_neg (by simp)] at hempty
        split at hempty
        · next hexplicit =>
          unfold EfiBootVolume.mount at hempty
          split at hempty
          · next hparse =>
            obtain rfl : image = mounted := by simpa using hempty
            exact .inr ⟨hexplicit.1, hexplicit.2, rfl, hparse⟩
          · simp at hempty
        · simp [bootImageMetadata, readGuestU64, IMemory.read, FlatMemory.read, FlatMemory.checkBounds,
            Except.map, Except.toOption] at hempty
      · rintro (hnone | ⟨hmanager, himage, hmounted, hparse⟩)
        · cases hnone
        · intro M _ g memory
          obtain rfl : mounted = image := Option.some.inj hmounted
          show (if _ then _ else if fromVmManager = true ∧ mounted ≠ [] then _ else _) = (true, _)
          rw [if_neg (by simp), if_pos ⟨hmanager, himage⟩]
          show (if parseFat mounted = true then _ else _) = _
          rw [if_pos hparse]

section Transient
variable {I M : Type} [IMemory M] (p : IA64ISAPlugin I) (bundle : Bundle I) (fat : Option (List UInt8))

theorem ensureEfiHandoffLayout_withTransient (memorySize : UInt64) (g : EfiHandoffGlobals) :
    (p.withTransient bundle fat).ensureEfiHandoffLayout memorySize g =
      ((p.ensureEfiHandoffLayout memorySize g).1,
        (p.ensureEfiHandoffLayout memorySize g).2.withTransient bundle fat) := by
  unfold IA64ISAPlugin.ensureEfiHandoffLayout IA64ISAPlugin.withTransient
  dsimp only
  split
  · rfl
  · split
    · rfl
    · split <;> rfl

theorem ensureEfiHandoffLayout_frame (memorySize : UInt64) (g : EfiHandoffGlobals) :
    (p.ensureEfiHandoffLayout memorySize g).2.state = p.state ∧
      (p.ensureEfiHandoffLayout memorySize g).2.services.boot = p.services.boot := by
  unfold IA64ISAPlugin.ensureEfiHandoffLayout
  split
  · exact ⟨rfl, rfl⟩
  · split
    · exact ⟨rfl, rfl⟩
    · split <;> exact ⟨rfl, rfl⟩

theorem servicePendingInterrupt_withTransient :
    (p.withTransient bundle fat).servicePendingInterrupt =
      (p.servicePendingInterrupt.1, p.servicePendingInterrupt.2.withTransient bundle fat) := by
  have hfind : (p.withTransient bundle fat).findHighestEligibleInterrupt = p.findHighestEligibleInterrupt := rfl
  unfold IA64ISAPlugin.servicePendingInterrupt
  rw [hfind]
  show (if p.interrupts.interruptInService || !p.hasPendingInterrupt then _ else
    if !p.areInterruptsEnabled then _ else _) = _
  split
  · rfl
  · split
    · rfl
    · split <;> rfl

/-- A serviced interrupt leaves no bundle in progress, and the boot volume alone. -/
theorem servicePendingInterrupt_frame :
    p.servicePendingInterrupt.2.services = p.services ∧
      (p.servicePendingInterrupt.2.state.bundleValid = true →
        p.state.bundleValid = true ∧ p.servicePendingInterrupt.2.state.currentBundle = p.state.currentBundle) := by
  unfold IA64ISAPlugin.servicePendingInterrupt
  split
  · exact ⟨rfl, fun h => ⟨h, rfl⟩⟩
  · split
    · exact ⟨rfl, fun h => ⟨h, rfl⟩⟩
    · split
      · exact ⟨rfl, fun h => ⟨h, rfl⟩⟩
      · exact ⟨rfl, fun h => by cases h⟩

variable (g : EfiHandoffGlobals) (decodeBundleAt : List UInt8 → UInt64 → Option (Bundle I)) (memory : M)

theorem loadBundle_withTransient :
    (p.withTransient bundle fat).loadBundle decodeBundleAt memory =
      (p.loadBundle decodeBundleAt memory).withTransient (p.loadBundle decodeBundleAt memory).state.currentBundle fat := by
  have hcpu : (p.withTransient bundle fat).cpu = p.cpu := rfl
  unfold IA64ISAPlugin.loadBundle
  rw [hcpu]
  cases IMemory.read memory p.cpu.ip 16 with
  | error _ => rfl
  | ok bundleData =>
      dsimp only
      cases decodeBundleAt bundleData p.cpu.ip <;> rfl

theorem fetchBundle_withTransient :
    (p.withTransient bundle fat).fetchBundle g decodeBundleAt memory =
      (p.fetchBundle g decodeBundleAt memory).withTransient
        (p.fetchBundle g decodeBundleAt memory).state.currentBundle fat := by
  have hcpu : (p.withTransient bundle fat).cpu = p.cpu := rfl
  unfold IA64ISAPlugin.fetchBundle
  rw [hcpu]
  cases IMemory.read memory p.cpu.ip 16 with
  | error _ => rfl
  | ok _ =>
      dsimp only
      cases fetchDescriptor g memory p.cpu.ip with
      | none => exact loadBundle_withTransient p bundle fat decodeBundleAt memory
      | some d => exact loadBundle_withTransient (p.setCpu _) bundle fat decodeBundleAt memory

theorem cacheInstruction_withTransient (hbundle : bundle = p.state.currentBundle) :
    (p.withTransient bundle fat).cacheInstruction =
      (p.cacheInstruction.1, p.cacheInstruction.2.withTransient bundle fat) := by
  subst hbundle
  have hstate : (p.withTransient p.state.currentBundle fat).state = p.state := rfl
  unfold IA64ISAPlugin.cacheInstruction
  rw [hstate]
  cases p.state.currentBundle.instructions[p.state.currentSlot]? <;> rfl

theorem cacheInstruction_frame :
    p.cacheInstruction.2.state = p.state ∧ p.cacheInstruction.2.services = p.services := by
  unfold IA64ISAPlugin.cacheInstruction
  split <;> exact ⟨rfl, rfl⟩

/-- `decode` gives both the same bundle, unless one is in progress, and then they had the same. -/
theorem decode_withTransient (hbundle : p.state.bundleValid = true → bundle = p.state.currentBundle) :
    (p.withTransient bundle fat).decode g decodeBundleAt memory =
      ((p.decode g decodeBundleAt memory).1, (p.decode g decodeBundleAt memory).2.withTransient
        (p.decode g decodeBundleAt memory).2.state.currentBundle fat) := by
  have hcached : ∀ r : IA64ISAPlugin I, (r.withTransient r.state.currentBundle fat).cacheInstruction =
      (r.cacheInstruction.1, r.cacheInstruction.2.withTransient r.cacheInstruction.2.state.currentBundle fat) := by
    intro r
    rw [cacheInstruction_withTransient r _ fat rfl, (cacheInstruction_frame r).1]
  have hsame : ¬ p.NeedsFetch → bundle = p.state.currentBundle := by
    intro hn
    refine hbundle ?_
    cases hvalid : p.state.bundleValid with
    | true => rfl
    | false => exact absurd (.inl hvalid) hn
  have hiff : (p.withTransient bundle fat).NeedsFetch ↔ p.NeedsFetch := by
    cases hvalid : p.state.bundleValid with
    | true =>
        rw [hbundle hvalid]
        exact Iff.rfl
    | false => exact ⟨fun _ => .inl hvalid, fun _ => .inl hvalid⟩
  unfold IA64ISAPlugin.decode
  by_cases hfetch : p.NeedsFetch
  · rw [if_pos hfetch, if_pos (hiff.mpr hfetch), fetchBundle_withTransient]
    exact hcached { p.fetchBundle g decodeBundleAt memory with
      state := { (p.fetchBundle g decodeBundleAt memory).state with currentSlot := 0 } }
  · rw [if_neg hfetch, if_neg fun h => hfetch (hiff.mp h), hsame hfetch]
    exact hcached p

theorem services_loadBundle : (p.loadBundle decodeBundleAt memory).services = p.services := by
  unfold IA64ISAPlugin.loadBundle
  split
  · rfl
  · split <;> rfl

theorem services_decode : (p.decode g decodeBundleAt memory).2.services = p.services := by
  have hfetch : (p.fetchBundle g decodeBundleAt memory).services = p.services := by
    unfold IA64ISAPlugin.fetchBundle
    split
    · rfl
    · split
      · exact services_loadBundle p decodeBundleAt memory
      · exact services_loadBundle _ decodeBundleAt memory
  unfold IA64ISAPlugin.decode
  split
  · exact (cacheInstruction_frame _).2.trans hfetch
  · exact (cacheInstruction_frame p).2

end Transient

/-! ## No step tells them apart -/

section SameMachine
variable {I M : Type} [IMemory M] {parseFat : List UInt8 → Bool} {q p : IA64ISAPlugin I}
  {decodeBundleAt : List UInt8 → UInt64 → Option (Bundle I)}

/-- Execution that reaches the boot volume through `ensureEfiBootFat` alone, and the decoded bundle not at all,
    does the same to the same machine. -/
def Respects (parseFat : List UInt8 → Bool) (execute : Execute I M) : Prop :=
  ∀ g q p memory, SameMachine parseFat q p →
    (execute g q memory).1 = (execute g p memory).1 ∧
      SameMachine parseFat (execute g q memory).2.1 (execute g p memory).2.1 ∧
      (execute g q memory).2.2 = (execute g p memory).2.2

theorem sameMachine_ensureEfiHandoffLayout (h : SameMachine parseFat q p) (memorySize : UInt64)
    (g : EfiHandoffGlobals) :
    (q.ensureEfiHandoffLayout memorySize g).1 = (p.ensureEfiHandoffLayout memorySize g).1 ∧
      SameMachine parseFat (q.ensureEfiHandoffLayout memorySize g).2 (p.ensureEfiHandoffLayout memorySize g).2 := by
  obtain ⟨bundle, fat, rfl, hbundle, hvolume⟩ := h
  obtain ⟨hstate, hboot⟩ := ensureEfiHandoffLayout_frame p memorySize g
  rw [ensureEfiHandoffLayout_withTransient]
  refine ⟨rfl, bundle, fat, rfl, ?_, ?_⟩
  · rw [hstate]
    exact hbundle
  · intro M _ g' memory
    show ensureEfiBootFat parseFat g' memory
      { (p.ensureEfiHandoffLayout memorySize g).2.services.boot with efiBootFat := fat } = _
    rw [hboot]
    exact hvolume g' memory

theorem sameMachine_servicePendingInterrupt (h : SameMachine parseFat q p) :
    SameMachine parseFat q.servicePendingInterrupt.2 p.servicePendingInterrupt.2 := by
  obtain ⟨bundle, fat, rfl, hbundle, hvolume⟩ := h
  obtain ⟨hservices, hvalid⟩ := servicePendingInterrupt_frame p
  rw [servicePendingInterrupt_withTransient]
  refine ⟨bundle, fat, rfl, ?_, ?_⟩
  · intro h
    obtain ⟨hp, hcurrent⟩ := hvalid h
    exact (hbundle hp).trans hcurrent.symm
  · intro M _ g' memory
    show ensureEfiBootFat parseFat g' memory
      { p.servicePendingInterrupt.2.services.boot with efiBootFat := fat } = _
    rw [hservices]
    exact hvolume g' memory

theorem sameMachine_decode (h : SameMachine parseFat q p) (g : EfiHandoffGlobals)
    (decodeBundleAt : List UInt8 → UInt64 → Option (Bundle I)) (memory : M) :
    (q.decode g decodeBundleAt memory).1 = (p.decode g decodeBundleAt memory).1 ∧
      SameMachine parseFat (q.decode g decodeBundleAt memory).2 (p.decode g decodeBundleAt memory).2 := by
  obtain ⟨bundle, fat, rfl, hbundle, hvolume⟩ := h
  rw [decode_withTransient p bundle fat g decodeBundleAt memory hbundle]
  refine ⟨rfl, _, fat, rfl, fun _ => rfl, ?_⟩
  intro M' _ g' memory'
  show ensureEfiBootFat parseFat g' memory'
    { (p.decode g decodeBundleAt memory).2.services.boot with efiBootFat := fat } = _
  rw [services_decode]
  exact hvolume g' memory'

/-- Machines over one memory in one process, with the same plugin. -/
structure SameRun (parseFat : List UInt8 → Bool) (m m' : Machine I M) : Prop where
  globals : m.globals = m'.globals
  plugin : SameMachine parseFat m.plugin m'.plugin
  memory : m.memory = m'.memory

/-- **One step.** -/
theorem sameMachine_step {execute : Execute I M} (hexec : Respects parseFat execute) {m m' : Machine I M}
    (h : SameRun parseFat m m') :
    (step decodeBundleAt execute m).1 = (step decodeBundleAt execute m').1 ∧
      SameRun parseFat (step decodeBundleAt execute m).2 (step decodeBundleAt execute m').2 := by
  obtain ⟨g, q, memory⟩ := m
  obtain ⟨g', p, memory'⟩ := m'
  obtain ⟨hglobals, hplugin, hmemory⟩ := h
  obtain rfl : g = g' := hglobals
  obtain rfl : memory = memory' := hmemory
  obtain ⟨hlayoutGlobals, hlayout⟩ := sameMachine_ensureEfiHandoffLayout hplugin (getTotalSize memory) g
  have hserviced := sameMachine_servicePendingInterrupt hlayout
  unfold step
  dsimp only
  rw [hlayoutGlobals]
  generalize (p.ensureEfiHandoffLayout (getTotalSize memory) g).1 = globals
  obtain ⟨hvalid, hdecoded⟩ := sameMachine_decode hserviced globals decodeBundleAt memory
  revert hvalid hdecoded
  generalize (q.ensureEfiHandoffLayout (getTotalSize memory) g).2.servicePendingInterrupt.2.decode globals
    decodeBundleAt memory = dq
  generalize (p.ensureEfiHandoffLayout (getTotalSize memory) g).2.servicePendingInterrupt.2.decode globals
    decodeBundleAt memory = dp
  obtain ⟨validq, q'⟩ := dq
  obtain ⟨validp, p'⟩ := dp
  rintro rfl hdecoded
  cases validq with
  | false => exact ⟨rfl, rfl, hdecoded, rfl⟩
  | true =>
      obtain ⟨hresult, hafter, hmemory⟩ := hexec globals q' p' memory hdecoded
      exact ⟨hresult, rfl, hafter, hmemory⟩

/-- **Every further step.** Runs of any length give the same results and end in the same machine. -/
theorem runSteps_sameMachine {execute : Execute I M} (hexec : Respects parseFat execute) (n : Nat)
    {m m' : Machine I M} (h : SameRun parseFat m m') :
    (runSteps decodeBundleAt execute n m).1 = (runSteps decodeBundleAt execute n m').1 ∧
      SameRun parseFat (runSteps decodeBundleAt execute n m).2 (runSteps decodeBundleAt execute n m').2 := by
  induction n generalizing m m' with
  | zero => exact ⟨rfl, h⟩
  | succ n ih =>
      obtain ⟨hresult, hstep⟩ := sameMachine_step hexec h
      obtain ⟨hresults, hlast⟩ := ih hstep
      exact ⟨congrArg₂ List.cons hresult hresults, hlast⟩

end SameMachine

end GuideXOS.Isa
