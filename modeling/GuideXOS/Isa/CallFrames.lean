import GuideXOS.Isa.Interrupts

/-!
# `CallFrames` — `br.call`, `alloc` and `br.ret`

A call renames the register stack: the caller's outputs become the callee's `GR32` and up. This emulator
copies them. `captureCallOutputRegisters` clears the stacked registers and writes the outputs to their
front, still under the caller's CFM, and keeps the values in `pendingCallInputs`; the next `alloc`,
whichever procedure executes it, writes them a second time. `br.ret` writes back the frame the call saved.

The second half watches runs: `CallMonitor` keeps, for each stacked register, what the callee is owed there
until it writes the register itself.
-/

namespace GuideXOS.Isa
open Lib Lib.Words Lib.Runs GuideXOS.Core

/-! ## Branch targets -/

def kPsrInstructionTranslation : UInt64 := (1 : UInt64) <<< 36

/-- **`architecturalInstructionPointer`.** With instruction translation on, code in the kernel's physical
    image sees its virtual address. -/
def architecturalInstructionPointer (cpu : CPUState) : UInt64 :=
  if cpu.psr &&& kPsrInstructionTranslation ≠ 0 ∧ cpu.ip ≥ kIa64KernelPhysicalBase ∧
      cpu.ip - kIa64KernelPhysicalBase < kIa64KernelVirtualSpan then
    kIa64KernelVirtualBase + (cpu.ip - kIa64KernelPhysicalBase)
  else cpu.ip

/-- **`normalizeBranchEntryIP`.** A target in region 7 that names the handoff region is moved there. -/
def normalizeBranchEntryIP (g : EfiHandoffGlobals) (target : UInt64) : UInt64 :=
  let normalized := normalizeKernelEntryIP target
  let kIa64RegionOffsetMask : UInt64 := ((1 : UInt64) <<< 61) - 1
  let kIa64KernelRegionBase : UInt64 := (7 : UInt64) <<< 61
  let bundleTarget := normalized &&& ~~~0xF
  let physicalTarget := bundleTarget &&& kIa64RegionOffsetMask
  if bundleTarget &&& ~~~kIa64RegionOffsetMask = kIa64KernelRegionBase ∧
      physicalTarget ≥ g.EFI_HANDOFF_REGION_BASE ∧ physicalTarget < g.EFI_HANDOFF_REGION_END then
    physicalTarget
  else normalized

/-- The function descriptor guest memory holds at a branch target, where it holds one. -/
structure FunctionDescriptor where
  codePointer : UInt64
  descriptorGp : UInt64
  deriving DecidableEq

/-- The frame an `alloc` asks for, in its immediate. -/
structure AllocFrame where
  sof : UInt8
  sol : UInt8
  sor : UInt8
  deriving DecidableEq

def AllocFrame.ofImmediate (immediate : UInt64) : AllocFrame where
  sof := (immediate &&& 0x7F).toUInt8
  sol := ((immediate >>> 7) &&& 0x7F).toUInt8
  sor := ((immediate >>> 14) &&& 0xF).toUInt8

/-- The sizes `alloc` accepts; it throws on the others. -/
def AllocFrame.Valid (f : AllocFrame) : Prop := f.sol ≤ f.sof ∧ f.sof ≤ 96 ∧ f.sor ≤ f.sof

instance (f : AllocFrame) : Decidable f.Valid := inferInstanceAs (Decidable (_ ∧ _))

/-- The frame marker `alloc` installs. Its rename bases are zero. -/
def AllocFrame.cfm (f : AllocFrame) : UInt64 :=
  f.sof.toUInt64 ||| (f.sol.toUInt64 <<< 7) ||| (f.sor.toUInt64 <<< 14)

namespace IA64ISAPlugin
variable {I : Type _}

variable (p : IA64ISAPlugin I)

def capturePredicateGroupSnapshot : IA64ISAPlugin I :=
  { p with state := { p.state with predicateGroupSnapshot := Vector.ofFn p.cpu.getPR } }

/-- A branch whose target is a function descriptor goes to the code it names, with its global pointer. -/
def resolveBranchTarget (branchTarget : UInt64) (descriptor : Option FunctionDescriptor) : UInt64 × IA64ISAPlugin I :=
  match descriptor with
  | none => (branchTarget, p)
  | some d =>
      if branchTarget = 0 ∨ d.codePointer = branchTarget then (branchTarget, p)
      else
        let switchesGp := d.descriptorGp ≠ 0 ∧ d.descriptorGp ≠ p.cpu.getGR 1
        let cpu := if switchesGp then p.cpu.setGR 1 d.descriptorGp else p.cpu
        (d.codePointer, { p.setCpu cpu with trace := { p.trace with
          gpSwitchCount := if switchesGp then p.trace.gpSwitchCount + 1 else p.trace.gpSwitchCount
          lastDescriptorAddress := branchTarget
          lastDescriptorCode := d.codePointer
          lastDescriptorGp := d.descriptorGp } })

def rememberBranchTarget (target : UInt64) : IA64ISAPlugin I :=
  let targets := p.trace.lastBranchTargets ++ [target]
  { p with trace := { p.trace with
    lastBranchTargets := if targets.length > 5 then targets.tail else targets } }

/-- The end of every taken branch: execution continues in slot 0 of the bundle at `branchEntryIP`. -/
def enterBundle (branchEntryIP : UInt64) : IA64ISAPlugin I :=
  let p := p.setCpu (p.cpu.setIP branchEntryIP)
  capturePredicateGroupSnapshot { p with
    state := { p.state with bundleValid := false, currentSlot := 0 }
    cachedInstruction := none }

theorem cpu_enterBundle (branchEntryIP : UInt64) :
    (p.enterBundle branchEntryIP).cpu = p.cpu.setIP branchEntryIP := rfl

/-! ## Calls -/

/-- The outputs of the current frame, from the register `first` on, as far as the register file goes. -/
def readOutputs (cpu : CPUState) (first : Nat) : Nat → List UInt64
  | 0 => []
  | n + 1 => if h : first < 128 then cpu.getGR ⟨first, h⟩ :: readOutputs cpu (first + 1) n else []

/-- **`captureCallOutputRegisters`.** A frame without outputs is left as it is. -/
def captureCallOutputRegisters : IA64ISAPlugin I :=
  let sof := p.cpu.getSOF
  let sol := p.cpu.getSOL
  if sof ≤ sol then { p with frames := { p.frames with pendingCallInputs := [] } }
  else
    let outputs := readOutputs p.cpu (32 + sol.toNat) (sof.toNat - sol.toNat)
    { p.setCpu ((p.cpu.writeStacked 0 (List.replicate 96 0)).writeStacked 0 outputs) with
      frames := { p.frames with pendingCallInputs := outputs } }

def saveCallFrame (returnAddress : UInt64) : IA64ISAPlugin I :=
  { p with frames := { p.frames with
    callFrameStack := p.frames.callFrameStack ++ [.capture p.cpu returnAddress] } }

@[simp] theorem cpu_saveCallFrame (returnAddress : UInt64) :
    (p.saveCallFrame returnAddress).cpu = p.cpu := rfl

/-- The size of the callee's first frame: the outputs of the caller. -/
def callerOutputCount (cpu : CPUState) : UInt64 :=
  if cpu.getSOF > cpu.getSOL then cpu.getSOF.toUInt64 - cpu.getSOL.toUInt64 else 0

/-- The register-stack part of a `br.call` into guest code. -/
def renameForCall : IA64ISAPlugin I :=
  let p := (p.saveCallFrame (p.cpu.ip + 16)).captureCallOutputRegisters
  p.setCpu (((p.cpu.advanceBSPForCall).setPFS p.cpu.cfm).setCFM (callerOutputCount p.cpu))

/-- **`BR_CALL`** into guest code: the branch register gets the return address, and control enters the
    callee's first bundle. -/
def brCall (g : EfiHandoffGlobals) (p : IA64ISAPlugin I) (dst : Fin 8) (branchTarget : UInt64)
    (descriptor : Option FunctionDescriptor) : IA64ISAPlugin I :=
  let (target, p) := p.renameForCall.resolveBranchTarget branchTarget descriptor
  let p := p.setCpu (p.cpu.setBR dst (architecturalInstructionPointer p.cpu + 16))
  let branchEntryIP := normalizeBranchEntryIP g target
  (p.rememberBranchTarget branchEntryIP).enterBundle branchEntryIP

/-! ## `alloc` -/

/-- **`applyPendingCallInputRegisters`.** -/
def applyPendingCallInputRegisters : IA64ISAPlugin I :=
  if p.frames.pendingCallInputs.isEmpty then p
  else { p.setCpu (p.cpu.writeStacked 0 p.frames.pendingCallInputs) with
    frames := { p.frames with pendingCallInputs := [] } }

/-- The `ALLOC` case of the decoder: the destination is written under the old frame marker. -/
def allocRegisters (cpu : CPUState) (dst : Fin 128) (f : AllocFrame) : CPUState :=
  let oldPfs := cpu.getAR 64
  ((cpu.setGR dst (if oldPfs = 0 then cpu.cfm else oldPfs)).setAR 64 cpu.cfm).setCFM f.cfm

/-- **`ALLOC`.** `none` when it throws on an invalid frame size. -/
def alloc (dst : Fin 128) (immediate : UInt64) : Option (IA64ISAPlugin I) :=
  if (AllocFrame.ofImmediate immediate).Valid then
    some (p.setCpu (allocRegisters p.cpu dst (.ofImmediate immediate))).applyPendingCallInputRegisters
  else none

/-! ## Returns -/

/-- Writing back a saved frame: its CFM first, so that its own renaming is in force. -/
def restoreFrame (cpu : CPUState) (frame : CallFrameSnapshot) : CPUState :=
  (cpu.setCFM frame.cfm).writeStacked 0 frame.stackedRegisters.toList

/-- The innermost saved frame with a given return address, by position. -/
def findCallFrame (branchTarget : UInt64) (frames : List CallFrameSnapshot) :
    Option (Nat × CallFrameSnapshot) :=
  (frames.zipIdx.reverse.find? fun e => e.1.returnAddress = branchTarget).map Prod.swap

/-- **`restoreCallFrame`.** A return to an address without an active frame restores the last completed one
    for it, if there is any. -/
def restoreCallFrame (branchTarget : UInt64) : IA64ISAPlugin I :=
  match findCallFrame branchTarget p.frames.callFrameStack with
  | some (matchIndex, frame) =>
      let callerSol := ((frame.cfm >>> 7) &&& 0x7F).toUInt8
      { p.setCpu (restoreFrame (p.cpu.rewindBSPForReturn callerSol) frame) with
        frames := { p.frames with
          completedCallFrames := p.frames.completedCallFrames.insert frame.returnAddress frame
          callFrameStack := p.frames.callFrameStack.take matchIndex } }
  | none =>
      match p.frames.completedCallFrames.find? branchTarget with
      | some frame => p.setCpu (restoreFrame p.cpu frame)
      | none => p

/-- **`BR_RET`** to a nonzero address. -/
def brRet (g : EfiHandoffGlobals) (p : IA64ISAPlugin I) (branchTarget : UInt64)
    (descriptor : Option FunctionDescriptor) : IA64ISAPlugin I :=
  let (target, p) := p.resolveBranchTarget branchTarget descriptor
  let branchEntryIP := normalizeBranchEntryIP g target
  ((p.restoreCallFrame branchEntryIP).rememberBranchTarget branchEntryIP).enterBundle branchEntryIP

/-! ### What the operations do to the stacked registers -/

section Views
variable {p p' : IA64ISAPlugin I} {dst : Fin 128} {cpu : CPUState} {immediate : UInt64} (g : EfiHandoffGlobals)
  {i : Fin 96}

theorem unrotated_of_cfm (h : cpu.cfm.toNat < 2 ^ 18) : cpu.Unrotated := by
  have hrrb : cpu.getRRB_GR = 0 := by
    have hshift : cpu.cfm >>> 18 = 0 := by
      apply UInt64.toNat_inj.mp
      rw [UInt64.toNat_shiftRight]
      exact Nat.shiftRight_eq_zero _ _ h
    rw [CPUState.getRRB_GR, hshift]
    rfl
  rw [CPUState.Unrotated, hrrb]
  exact Nat.zero_mod _

theorem callerOutputCount_lt (cpu : CPUState) : (callerOutputCount cpu).toNat < 2 ^ 18 := by
  have hsof : cpu.getSOF.toNat < 256 := UInt8.toNat_lt _
  unfold callerOutputCount
  split
  · next h =>
      have hle : cpu.getSOL.toUInt64 ≤ cpu.getSOF.toUInt64 := by
        rw [UInt64.le_iff_toNat_le, UInt8.toNat_toUInt64, UInt8.toNat_toUInt64]
        exact le_of_lt (UInt8.lt_iff_toNat_lt.mp h)
      rw [UInt64.toNat_sub_of_le _ _ hle, UInt8.toNat_toUInt64]
      omega
  · decide

theorem allocFrame_cfm_lt (immediate : UInt64) : (AllocFrame.ofImmediate immediate).cfm.toNat < 2 ^ 18 := by
  have hsof := UInt8.toNat_lt (AllocFrame.ofImmediate immediate).sof
  have hsol := UInt8.toNat_lt (AllocFrame.ofImmediate immediate).sol
  have hsor : (AllocFrame.ofImmediate immediate).sor.toNat ≤ 15 := by
    have hand : (immediate.toNat >>> 14) &&& 15 ≤ 15 := Nat.and_le_right
    rw [AllocFrame.ofImmediate, UInt64.toNat_toUInt8, UInt64.toNat_and, UInt64.toNat_shiftRight]
    exact le_trans (Nat.mod_le _ _) hand
  -- the three fields occupy bits 0-7, 7-14 and 14-17
  rw [AllocFrame.cfm, UInt64.toNat_or, UInt64.toNat_or, UInt64.toNat_shiftLeft, UInt64.toNat_shiftLeft,
    UInt8.toNat_toUInt64, UInt8.toNat_toUInt64, UInt8.toNat_toUInt64]
  refine Nat.or_lt_two_pow (Nat.or_lt_two_pow (by omega) (lt_of_le_of_lt (Nat.mod_le _ _) ?_))
    (lt_of_le_of_lt (Nat.mod_le _ _) ?_)
  · rw [Nat.shiftLeft_eq]
    exact lt_of_lt_of_le (Nat.mul_lt_mul_of_pos_right hsol (by decide)) (by decide)
  · rw [Nat.shiftLeft_eq]
    exact lt_of_le_of_lt (Nat.mul_le_mul_right _ hsor) (by decide)

theorem getElem?_readOutputs (cpu : CPUState) (first n i : Nat) :
    (readOutputs cpu first n)[i]? =
      if h : i < n ∧ first + i < 128 then some (cpu.getGR ⟨first + i, h.2⟩) else none := by
  induction n generalizing first i with
  | zero => simp [readOutputs]
  | succ n ih =>
      unfold readOutputs
      by_cases hfirst : first < 128
      · rw [dif_pos hfirst]
        cases i with
        | zero => simp [hfirst]
        | succ i =>
            rw [List.getElem?_cons_succ, ih]
            simp only [Nat.add_right_comm first i 1, Nat.add_lt_add_iff_right, ← Nat.add_assoc]
      · rw [dif_neg hfirst, dif_neg (by omega)]
        rfl

/-- A write to a static register is not seen in an unrotated frame. -/
theorem stackedView_setGR_static (hu : cpu.Unrotated) (hdst : dst.val < 32) (v : UInt64) (i : Fin 96) :
    (cpu.setGR dst v).stackedView i = cpu.stackedView i := by
  have hphys : cpu.mapGR dst ≠ 32 + i.val := by
    unfold CPUState.mapGR
    split
    · omega
    · rw [if_pos (.inl hdst)]
      omega
  rw [CPUState.stackedView_eq, CPUState.stackedView_eq, CPUState.stackedPhysical_of_cfm (CPUState.cfm_setGR _ _ _),
    CPUState.stackedPhysical_unrotated hu]
  unfold CPUState.setGR
  split
  · rfl
  · rw [GRFile.get_set_ne hphys, GRFile.getNaT_set_ne hphys]

/-- **The view after `SetGR`**, of any register but the one written. -/
theorem stackedView_setGR_of_ne (hu : cpu.Unrotated) (hne : stackedGR i ≠ dst) (v : UInt64) :
    (cpu.setGR dst v).stackedView i = cpu.stackedView i := by
  by_cases hdst : dst.val < 32
  · exact stackedView_setGR_static hu hdst v i
  · have hd : dst = stackedGR ⟨dst.val - 32, by omega⟩ := Fin.ext (by simp only [stackedGR]; omega)
    rw [hd] at hne ⊢
    exact CPUState.stackedView_setGR_ne (fun he => hne (by rw [he])) v

theorem stackedPhysical_lt (hu : cpu.Unrotated) (i : Fin 96) : cpu.stackedPhysical i < 144 := by
  rw [CPUState.stackedPhysical_unrotated hu]
  omega

/-- A sequence written from `GR32` on covers the front of the view. -/
theorem stackedView_writeStacked_zero (hu : cpu.Unrotated) (vs : List UInt64) (i : Fin 96) :
    (cpu.writeStacked 0 vs).stackedView i =
      match vs[i.val]? with
      | some v => (v, false)
      | none => cpu.stackedView i := by
  split
  · next hv => exact CPUState.stackedView_writeStacked (stackedPhysical_lt hu i) (Nat.zero_le _) hv
  · next hv =>
      have hlen : vs.length ≤ i.val := List.getElem?_eq_none_iff.mp hv
      exact CPUState.stackedView_writeStacked_of_not_mem cpu (.inr (by omega))

theorem stackedView_applyPendingCallInputRegisters (hu : p.cpu.Unrotated) (i : Fin 96) :
    p.applyPendingCallInputRegisters.cpu.stackedView i =
      match p.frames.pendingCallInputs[i.val]? with
      | some v => (v, false)
      | none => p.cpu.stackedView i := by
  unfold applyPendingCallInputRegisters
  split
  · next hempty =>
      rw [List.isEmpty_iff.mp hempty]
      rfl
  · exact stackedView_writeStacked_zero hu _ i

theorem alloc_eq_some (h : p.alloc dst immediate = some p') :
    p' = (p.setCpu (allocRegisters p.cpu dst (.ofImmediate immediate))).applyPendingCallInputRegisters := by
  unfold alloc at h
  split at h
  · exact (Option.some.inj h).symm
  · cases h

theorem cfm_allocRegisters (cpu : CPUState) (dst : Fin 128) (f : AllocFrame) :
    (allocRegisters cpu dst f).cfm = f.cfm := by
  simp only [allocRegisters, CPUState.cfm_setCFM]

theorem unrotated_allocRegisters (cpu : CPUState) (dst : Fin 128) (immediate : UInt64) :
    (allocRegisters cpu dst (.ofImmediate immediate)).Unrotated := by
  apply unrotated_of_cfm
  rw [cfm_allocRegisters]
  exact allocFrame_cfm_lt immediate

theorem stackedView_allocRegisters (hu : cpu.Unrotated) (hne : stackedGR i ≠ dst) :
    (allocRegisters cpu dst (.ofImmediate immediate)).stackedView i = cpu.stackedView i := by
  let v := if cpu.getAR 64 = 0 then cpu.cfm else cpu.getAR 64
  have hgr : (allocRegisters cpu dst (.ofImmediate immediate)).gr = (cpu.setGR dst v).gr := by
    simp only [allocRegisters, CPUState.gr_setCFM, CPUState.gr_setAR, v]
  have hold : (cpu.setGR dst v).Unrotated := CPUState.unrotated_of_cfm_eq (CPUState.cfm_setGR cpu dst v) hu
  rw [CPUState.stackedView_of_unrotated hgr hold (unrotated_allocRegisters cpu dst immediate),
    stackedView_setGR_of_ne hu hne]

/-- **`alloc` in an unrotated frame.** The pending outputs are written to the front of the view; nothing
    else of it changes but the destination. -/
theorem stackedView_alloc (hu : p.cpu.Unrotated) (h : p.alloc dst immediate = some p') (hne : stackedGR i ≠ dst) :
    p'.cpu.stackedView i =
      match p.frames.pendingCallInputs[i.val]? with
      | some v => (v, false)
      | none => p.cpu.stackedView i := by
  have hnew : (p.setCpu (allocRegisters p.cpu dst (.ofImmediate immediate))).cpu.Unrotated := by
    rw [cpu_setCpu]
    exact unrotated_allocRegisters p.cpu dst immediate
  rw [alloc_eq_some h, stackedView_applyPendingCallInputRegisters hnew, cpu_setCpu,
    stackedView_allocRegisters hu hne, frames_setCpu]

theorem cfm_applyPendingCallInputRegisters (p : IA64ISAPlugin I) :
    p.applyPendingCallInputRegisters.cpu.cfm = p.cpu.cfm := by
  unfold applyPendingCallInputRegisters
  split
  · rfl
  · rw [cpu, setCpu, CPUState.cfm_writeStacked]

/-- The frame size that `alloc` asks for is the one the processor then reports. -/
theorem getSOF_alloc (h : p.alloc dst immediate = some p') :
    p'.cpu.getSOF.toNat = (AllocFrame.ofImmediate immediate).sof.toNat := by
  have hsof : (AllocFrame.ofImmediate immediate).sof.toNat < 128 := by
    have hand : immediate.toNat &&& 127 ≤ 127 := Nat.and_le_right
    rw [AllocFrame.ofImmediate, UInt64.toNat_toUInt8, UInt64.toNat_and]
    exact lt_of_le_of_lt (le_trans (Nat.mod_le _ _) hand) (by decide)
  have hlow : (AllocFrame.ofImmediate immediate).cfm.toNat % 2 ^ 7 =
      (AllocFrame.ofImmediate immediate).sof.toNat := by
    rw [AllocFrame.cfm, UInt64.toNat_or, UInt64.toNat_or, UInt64.toNat_shiftLeft, UInt64.toNat_shiftLeft,
      UInt8.toNat_toUInt64, UInt8.toNat_toUInt64, UInt8.toNat_toUInt64, Nat.or_mod_two_pow, Nat.or_mod_two_pow,
      Nat.mod_mod_of_dvd _ (by decide), Nat.mod_mod_of_dvd _ (by decide), Nat.shiftLeft_eq, Nat.shiftLeft_eq,
      Nat.mod_eq_of_lt hsof]
    have hsol (n : Nat) : n * 2 ^ (UInt64.toNat 7 % 64) % 2 ^ 7 = 0 := Nat.mul_mod_left n _
    have hsor (n : Nat) : n * 2 ^ (UInt64.toNat 14 % 64) % 2 ^ 7 = 0 :=
      Nat.mod_eq_zero_of_dvd (Dvd.dvd.mul_left (by decide) n)
    rw [hsol, hsor, Nat.or_zero, Nat.or_zero]
  rw [alloc_eq_some h, CPUState.getSOF, cfm_applyPendingCallInputRegisters, cpu_setCpu, cfm_allocRegisters,
    UInt64.toNat_toUInt8, UInt64.toNat_and]
  show ((AllocFrame.ofImmediate immediate).cfm.toNat &&& (2 ^ 7 - 1)) % 2 ^ 8 = _
  rw [Nat.and_two_pow_sub_one_eq_mod, hlow]
  omega

theorem pendingCallInputs_alloc (h : p.alloc dst immediate = some p') : p'.frames.pendingCallInputs = [] := by
  rw [alloc_eq_some h]
  unfold applyPendingCallInputRegisters
  split
  · next hempty => exact List.isEmpty_iff.mp hempty
  · rfl

/-! What the callee finds. -/

theorem cfm_captureCallOutputRegisters (p : IA64ISAPlugin I) :
    p.captureCallOutputRegisters.cpu.cfm = p.cpu.cfm := by
  simp only [captureCallOutputRegisters]
  split
  · rfl
  · rw [cpu, setCpu, CPUState.cfm_writeStacked, CPUState.cfm_writeStacked]

theorem pendingCallInputs_captureCallOutputRegisters (p : IA64ISAPlugin I) :
    p.captureCallOutputRegisters.frames.pendingCallInputs =
      if p.cpu.getSOF ≤ p.cpu.getSOL then []
      else readOutputs p.cpu (32 + p.cpu.getSOL.toNat) (p.cpu.getSOF.toNat - p.cpu.getSOL.toNat) := by
  simp only [captureCallOutputRegisters]
  split <;> rfl

/-- Calling from an unrotated frame with outputs: the outputs, then zeros. -/
theorem stackedView_captureCallOutputRegisters (hu : p.cpu.Unrotated) (hout : ¬ p.cpu.getSOF ≤ p.cpu.getSOL)
    (i : Fin 96) :
    p.captureCallOutputRegisters.cpu.stackedView i =
      match p.captureCallOutputRegisters.frames.pendingCallInputs[i.val]? with
      | some v => (v, false)
      | none => (0, false) := by
  have hzero : (p.cpu.writeStacked 0 (List.replicate 96 0)).Unrotated :=
    CPUState.unrotated_of_cfm_eq (CPUState.cfm_writeStacked _ _ _) hu
  rw [pendingCallInputs_captureCallOutputRegisters, if_neg hout]
  simp only [captureCallOutputRegisters, if_neg hout]
  rw [cpu, setCpu, stackedView_writeStacked_zero hzero, stackedView_writeStacked_zero hu,
    List.getElem?_replicate, if_pos i.isLt]

theorem gr_captureCallOutputRegisters_noOutputs (hout : p.cpu.getSOF ≤ p.cpu.getSOL) :
    p.captureCallOutputRegisters.cpu.gr = p.cpu.gr := by
  simp only [captureCallOutputRegisters, if_pos hout]

theorem callerOutputCount_of_cfm {s t : CPUState} (h : t.cfm = s.cfm) :
    callerOutputCount t = callerOutputCount s := by
  rw [callerOutputCount, callerOutputCount, CPUState.getSOF, CPUState.getSOL, CPUState.getSOF, CPUState.getSOL, h]

theorem renameForCall_eq (p : IA64ISAPlugin I) :
    p.renameForCall =
      let q := (p.saveCallFrame (p.cpu.ip + 16)).captureCallOutputRegisters
      q.setCpu (((q.cpu.advanceBSPForCall).setPFS q.cpu.cfm).setCFM (callerOutputCount q.cpu)) := rfl

theorem cfm_renameForCall (p : IA64ISAPlugin I) : p.renameForCall.cpu.cfm = callerOutputCount p.cpu := by
  rw [renameForCall_eq, cpu_setCpu, CPUState.cfm_setCFM]
  exact callerOutputCount_of_cfm (cfm_captureCallOutputRegisters _)

theorem unrotated_renameForCall (p : IA64ISAPlugin I) : p.renameForCall.cpu.Unrotated := by
  apply unrotated_of_cfm
  rw [cfm_renameForCall]
  exact callerOutputCount_lt p.cpu

theorem gr_renameForCall (p : IA64ISAPlugin I) :
    p.renameForCall.cpu.gr = (p.saveCallFrame (p.cpu.ip + 16)).captureCallOutputRegisters.cpu.gr := by
  rw [renameForCall_eq, cpu_setCpu, CPUState.gr_setCFM, CPUState.gr_setPFS, CPUState.gr_advanceBSPForCall]

/-- The new frame marker changes nothing the callee sees: both frames are unrotated. -/
theorem stackedView_renameForCall (hu : p.cpu.Unrotated) (i : Fin 96) :
    p.renameForCall.cpu.stackedView i =
      (p.saveCallFrame (p.cpu.ip + 16)).captureCallOutputRegisters.cpu.stackedView i :=
  CPUState.stackedView_of_unrotated (gr_renameForCall p)
    (CPUState.unrotated_of_cfm_eq (cfm_captureCallOutputRegisters _) hu) (unrotated_renameForCall p) i

/-- Following a descriptor sets the static register `GR1` only. -/
theorem stackedView_resolveBranchTarget (hu : p.cpu.Unrotated) (branchTarget : UInt64)
    (descriptor : Option FunctionDescriptor) (i : Fin 96) :
    (p.resolveBranchTarget branchTarget descriptor).2.cpu.stackedView i = p.cpu.stackedView i := by
  cases descriptor with
  | none => rfl
  | some d =>
      simp only [resolveBranchTarget]
      split
      · rfl
      · show (ite _ (p.cpu.setGR 1 d.descriptorGp) p.cpu : CPUState).stackedView i = _
        split
        · exact stackedView_setGR_static hu (by decide) _ i
        · rfl

theorem frames_resolveBranchTarget (p : IA64ISAPlugin I) (branchTarget : UInt64)
    (descriptor : Option FunctionDescriptor) :
    (p.resolveBranchTarget branchTarget descriptor).2.frames = p.frames := by
  cases descriptor with
  | none => rfl
  | some d =>
      simp only [resolveBranchTarget]
      split <;> rfl

/-- The callee enters with what `renameForCall` leaves. -/
theorem stackedView_brCall (p : IA64ISAPlugin I) (dst : Fin 8) (branchTarget : UInt64)
    (descriptor : Option FunctionDescriptor) (i : Fin 96) :
    (p.brCall g dst branchTarget descriptor).cpu.stackedView i = p.renameForCall.cpu.stackedView i := by
  rw [← stackedView_resolveBranchTarget (unrotated_renameForCall p) branchTarget descriptor]
  exact CPUState.stackedView_congr rfl rfl i

/-- **Entry of the callee, with outputs**: they come first, then zeros. -/
theorem stackedView_brCall_outputs (hu : p.cpu.Unrotated) (hout : ¬ p.cpu.getSOF ≤ p.cpu.getSOL) (dst : Fin 8)
    (branchTarget : UInt64) (descriptor : Option FunctionDescriptor) (i : Fin 96) :
    (p.brCall g dst branchTarget descriptor).cpu.stackedView i =
      match (readOutputs p.cpu (32 + p.cpu.getSOL.toNat) (p.cpu.getSOF.toNat - p.cpu.getSOL.toNat))[i.val]? with
      | some v => (v, false)
      | none => (0, false) := by
  rw [stackedView_brCall, stackedView_renameForCall hu,
    stackedView_captureCallOutputRegisters (p := p.saveCallFrame (p.cpu.ip + 16)) hu hout,
    pendingCallInputs_captureCallOutputRegisters, cpu_saveCallFrame, if_neg hout]

/-- **Entry of the callee, without outputs**: it sees the physical registers as they are. -/
theorem stackedView_brCall_noOutputs (hout : p.cpu.getSOF ≤ p.cpu.getSOL) (dst : Fin 8) (branchTarget : UInt64)
    (descriptor : Option FunctionDescriptor) (i : Fin 96) :
    (p.brCall g dst branchTarget descriptor).cpu.stackedView i =
      (p.cpu.gr.get (32 + i.val), p.cpu.gr.getNaT (32 + i.val)) := by
  rw [stackedView_brCall, CPUState.stackedView_eq, CPUState.stackedPhysical_unrotated (unrotated_renameForCall p),
    gr_renameForCall, gr_captureCallOutputRegisters_noOutputs (p := p.saveCallFrame (p.cpu.ip + 16)) hout,
    cpu_saveCallFrame]

theorem pendingCallInputs_brCall (p : IA64ISAPlugin I) (dst : Fin 8) (branchTarget : UInt64)
    (descriptor : Option FunctionDescriptor) :
    (p.brCall g dst branchTarget descriptor).frames.pendingCallInputs =
      if p.cpu.getSOF ≤ p.cpu.getSOL then []
      else readOutputs p.cpu (32 + p.cpu.getSOL.toNat) (p.cpu.getSOF.toNat - p.cpu.getSOL.toNat) := by
  show (p.renameForCall.resolveBranchTarget branchTarget descriptor).2.frames.pendingCallInputs = _
  rw [frames_resolveBranchTarget, renameForCall_eq, frames_setCpu,
    pendingCallInputs_captureCallOutputRegisters, cpu_saveCallFrame]

end Views

end IA64ISAPlugin

/-! ## Runs of calls, returns and allocations -/

/-- The operations on frames. `execute` is anything else the guest runs: it may leave the processor in any
    state. -/
inductive FrameOp where
  | brCall (dst : Fin 8) (branchTarget : UInt64) (descriptor : Option FunctionDescriptor)
  | alloc (dst : Fin 128) (immediate : UInt64)
  | brRet (branchTarget : UInt64) (descriptor : Option FunctionDescriptor)
  | execute (cpu : CPUState)

/-- A plugin with what the running callee is owed in its stacked registers: the outputs of its caller and
    zeros, until it writes the register itself, calls, or returns. -/
structure CallMonitor (I : Type _) where
  plugin : IA64ISAPlugin I
  owed : Fin 96 → Option (UInt64 × Bool) := fun _ => none

namespace CallMonitor
variable {I : Type _} (m : CallMonitor I)

/-- What a callee is owed on entry, by the state of its caller at the call. -/
def owedAtEntry (caller : CPUState) (i : Fin 96) : Option (UInt64 × Bool) :=
  if i.val < caller.getSOF.toNat - caller.getSOL.toNat then
    if h : caller.getSOL.toNat + i.val < 96 then some (caller.stackedView ⟨_, h⟩) else none
  else some (0, false)

/-- One operation. An `alloc` that throws changes nothing. -/
def step (g : EfiHandoffGlobals) (m : CallMonitor I) : FrameOp → CallMonitor I
  | .brCall dst branchTarget descriptor =>
      { plugin := m.plugin.brCall g dst branchTarget descriptor, owed := owedAtEntry m.plugin.cpu }
  | .alloc dst immediate =>
      match m.plugin.alloc dst immediate with
      | some p' => { plugin := p', owed := fun i => if stackedGR i = dst then none else m.owed i }
      | none => m
  | .brRet branchTarget descriptor => { plugin := m.plugin.brRet g branchTarget descriptor }
  | .execute cpu =>
      { plugin := m.plugin.setCpu cpu
        owed := fun i => if cpu.stackedView i = m.plugin.cpu.stackedView i then m.owed i else none }

/-- Every register still owed to the callee shows what it is owed. -/
def Delivered : Prop := ∀ i x, m.owed i = some x → m.plugin.cpu.stackedView i = x

/-- **What every step owes.** -/
structure Kept (g : EfiHandoffGlobals) (m : CallMonitor I) (op : FrameOp) : Prop where
  /-- On entry of the callee, and until it writes a register, it sees there the output of its caller, or
      zero beyond the outputs. -/
  delivered : (m.step g op).Delivered
  /-- `alloc` changes no register that stays inside the frame, its destination apart. -/
  frame : ∀ dst immediate p', op = .alloc dst immediate → m.plugin.alloc dst immediate = some p' →
    ∀ i : Fin 96, i.val < m.plugin.cpu.getSOF.toNat → i.val < p'.cpu.getSOF.toNat → stackedGR i ≠ dst →
      p'.cpu.stackedView i = m.plugin.cpu.stackedView i

/-- When a call hands over its outputs: they carry no NaT and the frame is unrotated; a call without outputs
    finds the stacked registers clear. -/
def CallSafe (caller : CPUState) : Prop :=
  if caller.getSOF ≤ caller.getSOL then
    ∀ i : Fin 96, caller.gr.get (32 + i.val) = 0 ∧ caller.gr.getNaT (32 + i.val) = false
  else
    caller.Unrotated ∧ ∀ i : Fin 96, caller.getSOL.toNat ≤ i.val → i.val < caller.getSOF.toNat →
      (caller.stackedView i).2 = false

/-- When an `alloc` leaves its frame alone: the frame is unrotated, and the outputs still pending from the
    last call are what its registers hold. -/
def AllocSafe (p : IA64ISAPlugin I) (dst : Fin 128) (immediate : UInt64) : Prop :=
  p.cpu.Unrotated ∧ ∀ i : Fin 96, ∀ v ∈ p.frames.pendingCallInputs[i.val]?,
    i.val < p.cpu.getSOF.toNat → i.val < (AllocFrame.ofImmediate immediate).sof.toNat → stackedGR i ≠ dst →
    p.cpu.stackedView i = (v, false)

instance (caller : CPUState) : Decidable (CallSafe caller) := inferInstanceAs (Decidable (ite _ _ _))

instance (p : IA64ISAPlugin I) (dst : Fin 128) (immediate : UInt64) : Decidable (AllocSafe p dst immediate) :=
  inferInstanceAs (Decidable (_ ∧ _))

/-- **When a step pays.** -/
def Safe : FrameOp → Prop
  | .brCall _ _ _ => CallSafe m.plugin.cpu
  | .alloc dst immediate => (m.plugin.alloc dst immediate).isSome → AllocSafe m.plugin dst immediate
  | .brRet _ _ => True
  | .execute _ => True

/-- What the callee is owed is delivered, and agrees with the outputs that `alloc` will write again. -/
def Sound : Prop :=
  m.Delivered ∧ ∀ (i : Fin 96) v x, m.plugin.frames.pendingCallInputs[i.val]? = some v → m.owed i = some x →
    x = (v, false)

section Step
variable {g : EfiHandoffGlobals} {m : CallMonitor I} {caller : CPUState} {i : Fin 96}
open IA64ISAPlugin

/-- An output of the caller, by its position in the callee's frame. -/
theorem owedAtEntry_eq_some {x : UInt64 × Bool} (h : owedAtEntry caller i = some x) :
    (∃ hi : caller.getSOL.toNat + i.val < 96, i.val < caller.getSOF.toNat - caller.getSOL.toNat ∧
      x = caller.stackedView ⟨_, hi⟩) ∨
    (caller.getSOF.toNat - caller.getSOL.toNat ≤ i.val ∧ x = (0, false)) := by
  unfold owedAtEntry at h
  split at h
  · next hlt =>
      split at h
      · next hi => exact .inl ⟨hi, hlt, (Option.some.inj h).symm⟩
      · cases h
  · next hge => exact .inr ⟨not_lt.mp hge, (Option.some.inj h).symm⟩

theorem outputs_eq_some {v : UInt64}
    (h : (readOutputs caller (32 + caller.getSOL.toNat) (caller.getSOF.toNat - caller.getSOL.toNat))[i.val]? =
      some v) :
    ∃ hi : caller.getSOL.toNat + i.val < 96, i.val < caller.getSOF.toNat - caller.getSOL.toNat ∧
      v = (caller.stackedView ⟨_, hi⟩).1 := by
  rw [getElem?_readOutputs] at h
  split at h
  · next hi =>
      refine ⟨by omega, hi.1, ?_⟩
      rw [← Option.some.inj h, CPUState.stackedView]
      exact congrArg caller.getGR (Fin.ext (by simp only [stackedGR]; omega))
  · cases h

theorem outputs_eq_none
    (h : (readOutputs caller (32 + caller.getSOL.toNat) (caller.getSOF.toNat - caller.getSOL.toNat))[i.val]? = none) :
    caller.getSOF.toNat - caller.getSOL.toNat ≤ i.val ∨ 96 ≤ caller.getSOL.toNat + i.val := by
  rw [getElem?_readOutputs] at h
  split at h
  · cases h
  · omega

theorem delivered_brCall (hsafe : CallSafe m.plugin.cpu) (dst : Fin 8) (branchTarget : UInt64)
    (descriptor : Option FunctionDescriptor) : (m.step g (.brCall dst branchTarget descriptor)).Delivered := by
  intro i x howed
  have hentry : owedAtEntry m.plugin.cpu i = some x := howed
  show (m.plugin.brCall g dst branchTarget descriptor).cpu.stackedView i = x
  by_cases hout : m.plugin.cpu.getSOF ≤ m.plugin.cpu.getSOL
  · rw [CallSafe, if_pos hout] at hsafe
    rw [stackedView_brCall_noOutputs g hout, (hsafe i).1, (hsafe i).2]
    have hle := UInt8.le_iff_toNat_le.mp hout
    rcases owedAtEntry_eq_some hentry with ⟨_, hlt, _⟩ | ⟨_, hx⟩
    · omega
    · exact hx.symm
  · rw [CallSafe, if_neg hout] at hsafe
    rw [stackedView_brCall_outputs g hsafe.1 hout]
    split
    · next v hv =>
        obtain ⟨hi, hlt, hv⟩ := outputs_eq_some hv
        rcases owedAtEntry_eq_some hentry with ⟨_, _, hx⟩ | ⟨hge, _⟩
        · have hnat := hsafe.2 ⟨_, hi⟩ (by simp) (by simp only; omega)
          rw [hx, hv, ← hnat]
        · omega
    · next hnone =>
        rcases owedAtEntry_eq_some hentry with ⟨hi, hlt, _⟩ | ⟨_, hx⟩
        · rcases outputs_eq_none hnone with h | h <;> omega
        · exact hx.symm

theorem sound_brCall (hsafe : CallSafe m.plugin.cpu) (dst : Fin 8) (branchTarget : UInt64)
    (descriptor : Option FunctionDescriptor) : (m.step g (.brCall dst branchTarget descriptor)).Sound := by
  refine ⟨delivered_brCall hsafe dst branchTarget descriptor, fun i v x hv howed => ?_⟩
  -- what is owed is what is seen, and what is seen is the pending output
  have hx := delivered_brCall (g := g) hsafe dst branchTarget descriptor i x howed
  have hpending : (m.plugin.brCall g dst branchTarget descriptor).frames.pendingCallInputs[i.val]? = some v := hv
  rw [pendingCallInputs_brCall] at hpending
  by_cases hout : m.plugin.cpu.getSOF ≤ m.plugin.cpu.getSOL
  · rw [if_pos hout] at hpending
    cases hpending
  · rw [if_neg hout] at hpending
    rw [CallSafe, if_neg hout] at hsafe
    rw [← hx]
    show (m.plugin.brCall g dst branchTarget descriptor).cpu.stackedView i = (v, false)
    rw [stackedView_brCall_outputs g hsafe.1 hout, hpending]

theorem sound_alloc (h : m.Sound) {dst : Fin 128} {immediate : UInt64} {p' : IA64ISAPlugin I}
    (halloc : m.plugin.alloc dst immediate = some p') (hu : m.plugin.cpu.Unrotated) :
    (m.step g (.alloc dst immediate)).Sound := by
  simp only [step, halloc]
  refine ⟨fun i x howed => ?_, fun i v x hv howed => ?_⟩
  · dsimp only at howed ⊢
    split at howed
    · cases howed
    · next hne =>
        rw [stackedView_alloc hu halloc hne]
        split
        · next v hv => exact (h.2 i v x hv howed).symm
        · exact h.1 i x howed
  · dsimp only at hv
    rw [pendingCallInputs_alloc halloc] at hv
    cases hv

theorem frame_alloc {dst : Fin 128} {immediate : UInt64} {p' : IA64ISAPlugin I}
    (halloc : m.plugin.alloc dst immediate = some p') (hsafe : AllocSafe m.plugin dst immediate) (i : Fin 96)
    (hi : i.val < m.plugin.cpu.getSOF.toNat) (hi' : i.val < p'.cpu.getSOF.toNat) (hne : stackedGR i ≠ dst) :
    p'.cpu.stackedView i = m.plugin.cpu.stackedView i := by
  rw [stackedView_alloc hsafe.1 halloc hne]
  split
  · next v hv => exact (hsafe.2 i v hv hi (getSOF_alloc halloc ▸ hi') hne).symm
  · rfl

/-- **One step.** -/
theorem sound_step (h : m.Sound) {op : FrameOp} (hsafe : m.Safe op) : (m.step g op).Sound := by
  cases op with
  | brCall dst branchTarget descriptor => exact sound_brCall hsafe dst branchTarget descriptor
  | alloc dst immediate =>
      cases halloc : m.plugin.alloc dst immediate with
      | none =>
          simp only [step, halloc]
          exact h
      | some p' => exact sound_alloc h halloc (hsafe (by rw [halloc]; rfl)).1
  | brRet branchTarget descriptor =>
      exact ⟨fun _ _ howed => absurd howed (by simp [step]), fun _ _ _ _ howed => absurd howed (by simp [step])⟩
  | execute cpu =>
      refine ⟨fun i x howed => ?_, fun i v x hv howed => ?_⟩
      · simp only [step] at howed ⊢
        split at howed
        · next hsame =>
            rw [cpu_setCpu, hsame]
            exact h.1 i x howed
        · cases howed
      · simp only [step] at howed hv
        split at howed
        · exact h.2 i v x hv howed
        · cases howed

theorem kept_of_safe (h : m.Sound) {op : FrameOp} (hsafe : m.Safe op) : m.Kept g op where
  delivered := (sound_step h hsafe).1
  frame dst immediate p' hop halloc i hi hi' hne := by
    subst hop
    exact frame_alloc halloc (hsafe (by rw [halloc]; rfl)) i hi hi' hne

end Step

end CallMonitor

/-- A caller with two outputs, `GR33 = 7` and `GR34 = 0`. -/
def twoOutputsCaller : CPUState :=
  { CPUState.reset with cfm := 0x83, gr := CPUState.reset.gr.set 33 7 }

/-- `twoOutputsCaller` after a callee that executed no `alloc` has returned to it. -/
def afterLeafReturn : CallMonitor Unit :=
  run (CallMonitor.step resetEfiHandoffLayoutGlobals) { plugin := IA64ISAPlugin.reset.2 }
    [.execute twoOutputsCaller, .brCall 0 0x4000 none, .brRet 0x10 none]

end GuideXOS.Isa
