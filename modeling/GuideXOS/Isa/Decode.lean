import GuideXOS.Core.Memory
import GuideXOS.Isa.CallFrames

/-!
# `Decode` — from the instruction pointer to the next instruction

`decode` works on the bundle being executed, and fetches the one at IP when there is none or all its slots
are done. A fetch starts at slot `0`, whatever `currentSlot` says, and may move IP: sixteen bytes that look
like a function descriptor are followed to the code they name.

* The decoder proper, `DecodeBundleAt`, is a parameter: from sixteen bytes and an address it makes a bundle,
  or throws (`none`).
* `dueSlot` is the slot `decode` picks, `straightLine` the slots of instructions that retire one after the
  other without a branch.
-/

namespace GuideXOS.Isa
open Lib Lib.Words GuideXOS.Core

section Fetch
variable {M : Type _} [IMemory M]

/-- **`tryResolveIa64FunctionDescriptor`.** -/
def tryResolveIa64FunctionDescriptor (memory : M) (target : UInt64) : Option FunctionDescriptor :=
  if target = 0 ∨ target &&& 0xF ≠ 0 then none
  else if getTotalSize memory ≠ 0 ∧ target ≥ getTotalSize memory then none
  else
    match readGuestU64 memory target, readGuestU64 memory (target + 8) with
    | some codePointer, some descriptorGp =>
        if codePointer = 0 ∨ codePointer = target ∨ codePointer &&& 0xF ≠ 0 then none
        else if getTotalSize memory ≠ 0 ∧ codePointer ≥ getTotalSize memory then none
        else some ⟨codePointer, descriptorGp⟩
    | _, _ => none

/-- The descriptor a fetch at `ip` follows. The handoff region is never probed: its bundles are code. -/
def fetchDescriptor (g : EfiHandoffGlobals) (memory : M) (ip : UInt64) : Option FunctionDescriptor :=
  let normalizedBundleIP := normalizeBranchEntryIP g ip
  if normalizedBundleIP ≥ g.EFI_HANDOFF_REGION_BASE ∧ normalizedBundleIP < g.EFI_HANDOFF_REGION_END then none
  else tryResolveIa64FunctionDescriptor memory ip

/-- Where a fetch at `ip` leaves IP. -/
def fetchTarget (g : EfiHandoffGlobals) (memory : M) (ip : UInt64) : UInt64 :=
  match IMemory.read memory ip 16 with
  | .error _ => ip
  | .ok _ => ((fetchDescriptor g memory ip).map (·.codePointer)).getD ip

end Fetch

namespace IA64ISAPlugin
variable {I M : Type _} [IMemory M]

/-- A bundle that could not be fetched. -/
def dropBundle (p : IA64ISAPlugin I) : IA64ISAPlugin I :=
  { p with state := { p.state with currentBundle := {}, bundleValid := false } }

/-- The bundle at IP, decoded. -/
def loadBundle (decodeBundleAt : List UInt8 → UInt64 → Option (Bundle I)) (p : IA64ISAPlugin I) (memory : M) :
    IA64ISAPlugin I :=
  match IMemory.read memory p.cpu.ip 16 with
  | .error _ => p.dropBundle
  | .ok bundleData =>
      match decodeBundleAt bundleData p.cpu.ip with
      | none => p.dropBundle
      | some bundle => capturePredicateGroupSnapshot
          { p with state := { p.state with currentBundle := bundle, bundleValid := true } }

/-- **`fetchBundle`.** -/
def fetchBundle (g : EfiHandoffGlobals) (decodeBundleAt : List UInt8 → UInt64 → Option (Bundle I))
    (p : IA64ISAPlugin I) (memory : M) : IA64ISAPlugin I :=
  match IMemory.read memory p.cpu.ip 16 with
  | .error _ => p.dropBundle
  | .ok _ =>
      match fetchDescriptor g memory p.cpu.ip with
      | none => p.loadBundle decodeBundleAt memory
      | some d =>
          let switchesGp := d.descriptorGp ≠ 0 ∧ d.descriptorGp ≠ p.cpu.getGR 1
          let cpu := if switchesGp then p.cpu.setGR 1 d.descriptorGp else p.cpu
          (p.setCpu (cpu.setIP d.codePointer)).loadBundle decodeBundleAt memory

/-- All slots of the current bundle are done, or there is none. -/
def NeedsFetch (p : IA64ISAPlugin I) : Prop :=
  p.state.bundleValid = false ∨ p.state.currentBundle.instructions.length ≤ p.state.currentSlot

instance (p : IA64ISAPlugin I) : Decidable p.NeedsFetch := inferInstanceAs (Decidable (_ ∨ _))

/-- The instruction in the current slot, if there is one, is cached for `execute`. -/
def cacheInstruction (p : IA64ISAPlugin I) : Bool × IA64ISAPlugin I :=
  match p.state.currentBundle.instructions[p.state.currentSlot]? with
  | none => (false, p)
  | some instr => (true, { p with cachedInstruction := some instr })

/-- **`decode`.** Whether there is an instruction, and the plugin with it cached. -/
def decode (g : EfiHandoffGlobals) (decodeBundleAt : List UInt8 → UInt64 → Option (Bundle I))
    (p : IA64ISAPlugin I) (memory : M) : Bool × IA64ISAPlugin I :=
  if p.NeedsFetch then
    let p := p.fetchBundle g decodeBundleAt memory
    cacheInstruction { p with state := { p.state with currentSlot := 0 } }
  else p.cacheInstruction

/-- An instruction that does not branch is done. -/
def retire (p : IA64ISAPlugin I) : IA64ISAPlugin I :=
  let executedSlot := p.state.currentSlot
  let p := { p with state := { p.state with currentSlot := executedSlot + 1 }, cachedInstruction := none }
  let p := if p.state.currentBundle.stopAfterSlot[executedSlot]?.getD false then
    p.capturePredicateGroupSnapshot else p
  if p.state.currentBundle.instructions.length ≤ p.state.currentSlot then
    let p := p.setCpu (p.cpu.setIP (p.cpu.ip + 16))
    capturePredicateGroupSnapshot { p with state := { p.state with bundleValid := false } }
  else p

/-- The slot `decode` picks. -/
def dueSlot (p : IA64ISAPlugin I) : Nat := if p.NeedsFetch then 0 else p.state.currentSlot

/-- The slots of the next `n` instructions, when none of them branches. -/
def straightLine : Nat → IA64ISAPlugin I → List Nat
  | 0, _ => []
  | n + 1, p => p.dueSlot :: straightLine n p.retire

/-- Address and slot of the instruction that `decode` finds. -/
def nextPosition (g : EfiHandoffGlobals) (decodeBundleAt : List UInt8 → UInt64 → Option (Bundle I))
    (p : IA64ISAPlugin I) (memory : M) : UInt64 × Nat :=
  let p := (p.decode g decodeBundleAt memory).2
  (p.cpu.ip, p.state.currentSlot)

/-! ### What is decoded next -/

section Position
variable (g : EfiHandoffGlobals) (decodeBundleAt : List UInt8 → UInt64 → Option (Bundle I))
  {p : IA64ISAPlugin I} (memory : M)

theorem ip_loadBundle (p : IA64ISAPlugin I) : (p.loadBundle decodeBundleAt memory).cpu.ip = p.cpu.ip := by
  unfold loadBundle
  split
  · rfl
  · split <;> rfl

theorem ip_fetchBundle (p : IA64ISAPlugin I) :
    (p.fetchBundle g decodeBundleAt memory).cpu.ip = fetchTarget g memory p.cpu.ip := by
  unfold fetchBundle fetchTarget
  cases IMemory.read memory p.cpu.ip 16 with
  | error _ => rfl
  | ok _ =>
      cases fetchDescriptor g memory p.cpu.ip with
      | none => exact ip_loadBundle decodeBundleAt memory p
      | some d => exact ip_loadBundle decodeBundleAt memory _

theorem position_cacheInstruction (p : IA64ISAPlugin I) :
    (p.cacheInstruction.2.cpu.ip, p.cacheInstruction.2.state.currentSlot) = (p.cpu.ip, p.state.currentSlot) := by
  unfold cacheInstruction
  split <;> rfl

/-- **A fetch starts the bundle**: whatever `currentSlot` was, slot `0` comes next. -/
theorem nextPosition_of_needsFetch (h : p.NeedsFetch) :
    p.nextPosition g decodeBundleAt memory = (fetchTarget g memory p.cpu.ip, 0) := by
  unfold nextPosition decode
  rw [if_pos h]
  refine (position_cacheInstruction _).trans ?_
  exact congrArg (·, 0) (ip_fetchBundle g decodeBundleAt memory p)

theorem nextPosition_of_not_needsFetch (h : ¬ p.NeedsFetch) :
    p.nextPosition g decodeBundleAt memory = (p.cpu.ip, p.state.currentSlot) := by
  unfold nextPosition decode
  rw [if_neg h]
  exact position_cacheInstruction p

end Position

/-! ### Straight-line execution -/

theorem retire_state (p : IA64ISAPlugin I) :
    p.retire.state.currentSlot = p.state.currentSlot + 1 ∧
      p.retire.state.currentBundle = p.state.currentBundle ∧
      (p.state.currentSlot + 1 < p.state.currentBundle.instructions.length →
        p.retire.state.bundleValid = p.state.bundleValid) := by
  unfold retire
  dsimp only
  split <;> split <;> refine ⟨rfl, rfl, fun hlt => ?_⟩
  · next hle => exact absurd hlt (not_lt.mpr hle)
  · rfl
  · next hle => exact absurd hlt (not_lt.mpr hle)
  · rfl

/-- **A bundle in one go**: from a slot on, every slot retires once, in order. -/
theorem straightLine_eq {n : Nat} (hvalid : p.state.bundleValid = true)
    (hlen : p.state.currentSlot + n ≤ p.state.currentBundle.instructions.length) :
    straightLine n p = List.range' p.state.currentSlot n := by
  induction n generalizing p with
  | zero => rfl
  | succ n ih =>
      obtain ⟨hslot, hbundle, hkeep⟩ := p.retire_state
      have hdue : p.dueSlot = p.state.currentSlot := by
        refine if_neg ?_
        rintro (hinvalid | hdone)
        · rw [hvalid] at hinvalid
          cases hinvalid
        · omega
      rw [straightLine, List.range'_succ, hdue]
      cases n with
      | zero => rfl
      | succ n =>
          rw [ih ((hkeep (by omega)).trans hvalid) (by rw [hslot, hbundle]; omega), hslot]

end IA64ISAPlugin

end GuideXOS.Isa
