import GuideXOS.Isa.Branches
import GuideXOS.Isa.Returns

/-!
# `ControlFlow` — a branch into guest code goes where it says

`follow` is a taken branch as the architecture has it, without a look at guest memory. `executeBranch` agrees with it
where the target holds no function descriptor and the branch is not a call that passes for a counted loop
(`executeBranch_eq_follow`).
-/

namespace GuideXOS.Isa
open Lib Lib.Words GuideXOS.Core

/-! ## Targets in guest code -/

namespace EfiHandoffGlobals
variable {g : EfiHandoffGlobals} {target : UInt64}

theorem inRegion_add {offset : UInt64} (h : offset < kEfiHandoffRegionSpan) :
    g.InRegion (g.EFI_HANDOFF_REGION_BASE + offset) := by
  show g.EFI_HANDOFF_REGION_BASE + offset - g.EFI_HANDOFF_REGION_BASE < _
  rwa [UInt64.add_comm, UInt64.add_sub_cancel]

theorem inRegion_of_between {offset : UInt64} (hspan : offset ≤ kEfiHandoffRegionSpan)
    (hbase : target ≥ g.EFI_HANDOFF_REGION_BASE) (hend : target < g.EFI_HANDOFF_REGION_BASE + offset) :
    g.InRegion target := by
  show target - g.EFI_HANDOFF_REGION_BASE < _
  have hbound : kEfiHandoffRegionSpan.toNat < 2 ^ 64 := kEfiHandoffRegionSpan.toNat_lt
  rw [ge_iff_le, UInt64.le_iff_toNat_le] at hbase
  rw [UInt64.le_iff_toNat_le] at hspan
  rw [UInt64.lt_iff_toNat_lt, UInt64.toNat_add] at hend
  have hmod := Nat.mod_le (g.EFI_HANDOFF_REGION_BASE.toNat + offset.toNat) (2 ^ 64)
  rw [UInt64.lt_iff_toNat_lt, UInt64.toNat_sub_of_le _ _ (UInt64.le_iff_toNat_le.mpr hbase)]
  omega

theorem stubAt_eq_none (h : ¬ g.InRegion target) : g.stubAt target = none := by
  refine List.find?_eq_none.mpr fun s _ hs => h ?_
  rw [of_decide_eq_true hs]
  exact inRegion_add s.codeOffset_lt

end EfiHandoffGlobals

section Guest
variable {I M : Type _} [IMemory M] {g : EfiHandoffGlobals} {memory : M} {target : UInt64}

theorem firmwareEntry_eq_none (h : ¬ g.IsFirmwareEntry target) (hzero : target ≠ 0) :
    firmwareEntry g memory target = none := by
  have hsal : normalizeBranchEntryIP g target ≠ g.EFI_SAL_PROCEDURE_CODE_ADDR := by
    intro heq
    refine h (.inr ?_)
    rw [heq]
    exact EfiHandoffGlobals.inRegion_add (by decide)
  have hfilled : isZeroFilledEfiHandoffBundle g memory target = false := by
    refine if_pos ?_
    by_cases hbase : normalizeBranchEntryIP g target < g.EFI_HANDOFF_REGION_BASE
    · exact .inl hbase
    · refine .inr (not_lt.mp fun hend => h (.inr ?_))
      exact EfiHandoffGlobals.inRegion_of_between le_rfl (not_lt.mp hbase) hend
  have hstub : g.stubAt target = none := EfiHandoffGlobals.stubAt_eq_none fun hin => h (.inl hin)
  rw [firmwareEntry, if_neg hsal, hstub, hfilled]
  exact if_neg hzero

end Guest

namespace IA64ISAPlugin
variable {I M : Type _} [IMemory M] {g : EfiHandoffGlobals} {p : IA64ISAPlugin I} {memory : M} {target : UInt64}

theorem calledDescriptor_eq_none (h : ¬ g.IsFirmwareEntry target)
    (hcode : tryResolveIa64FunctionDescriptor memory target = none) : calledDescriptor g memory target = none := by
  have hstub : g.stubAt target = none := EfiHandoffGlobals.stubAt_eq_none fun hin => h (.inl hin)
  rw [calledDescriptor, hcode, EfiHandoffGlobals.efiDescriptorForCodePointer, hstub]
  rfl

/-! ## The branch without the bytes -/

/-- A taken branch to `target`, as the architecture has it. -/
def follow (g : EfiHandoffGlobals) (instr : BranchInstruction) (p : IA64ISAPlugin I) (target : UInt64) :
    IA64ISAPlugin I :=
  let branchEntryIP := normalizeBranchEntryIP g target
  let go (cpu : CPUState) := ((p.setCpu cpu).rememberBranchTarget branchEntryIP).enterBundle branchEntryIP
  match instr.type with
  | .BR_COND => go p.cpu
  | .BR_CALL => p.brCall g instr.dst target none
  | .BR_RET => p.brRet g target none
  | .BR_CLOOP => go (p.cpu.setAR 65 (p.cpu.getAR 65 - 1))
  | .BR_CTOP => go (p.cpu.executeModuloLoopStage false).2
  | .BR_CEXIT => go (p.cpu.executeModuloLoopStage true).2

theorem ip_follow (instr : BranchInstruction) :
    (p.follow g instr target).cpu.ip = normalizeBranchEntryIP g target := by
  unfold follow
  cases instr.type <;> rfl

/-- A branch into guest code that nothing at its target and nothing about its shape keeps from it. -/
structure EntersGuest (g : EfiHandoffGlobals) (memory : M) (instr : BranchInstruction) (p : IA64ISAPlugin I)
    (target : UInt64) : Prop where
  taken : instr.takenTarget p.cpu = some target
  not_firmware : ¬ g.IsFirmwareEntry target
  not_descriptor : tryResolveIa64FunctionDescriptor memory target = none
  not_countedLoop : instr.callLooksLikeCountedLoop p.cpu.ip = false
  /-- A return to zero ends the guest, and an indirect call of zero succeeds on the spot. -/
  not_null : instr.type = .BR_RET ∨ instr.IsIndirectCall → target ≠ 0
  mapped : InGuestMemory g memory (normalizeBranchEntryIP g target)

theorem resolveBranchTarget_none (p : IA64ISAPlugin I) (target : UInt64) :
    p.resolveBranchTarget target none = (target, p) := rfl

/-- The stages of `executeBranch` after a decision that the firmware had no part in. -/
theorem executeBranch_of_decideBranch {firmware : Firmware I M} {instr : BranchInstruction} {p' : IA64ISAPlugin I}
    (hdecide : p.decideBranch g firmware instr memory =
      { branchTarget := some target, plugin := p', memory := memory })
    (hcode : tryResolveIa64FunctionDescriptor memory target = none) :
    p.executeBranch g firmware instr memory =
      let entered := (p'.setCpu (applyBranch instr p.cpu.ip (instr.livePredicateTrue p.cpu) false p'.cpu)).enterTarget
        g instr memory target
      (entered.1, entered.2, memory) := by
  unfold executeBranch
  rw [hdecide]
  dsimp only
  rw [hcode, resolveBranchTarget_none]
  rfl

section Kinds
variable {firmware : Firmware I M} {instr : BranchInstruction}

theorem enterTarget_of_entersGuest (h : EntersGuest g memory instr p target) (p' : IA64ISAPlugin I) :
    p'.enterTarget g instr memory target =
      (.CONTINUE, (((if instr.type = .BR_RET then p'.restoreCallFrame (normalizeBranchEntryIP g target)
        else p').rememberBranchTarget (normalizeBranchEntryIP g target)).enterBundle
          (normalizeBranchEntryIP g target))) := by
  have hreturn : ¬ (instr.type = .BR_RET ∧ target = 0) := fun hret => h.not_null (.inl hret.1) hret.2
  rw [enterTarget, if_neg hreturn]
  exact if_pos h.mapped

theorem exists_withTrace (p : IA64ISAPlugin I) : ∃ trace, p = { p with trace := trace } := ⟨p.trace, rfl⟩

theorem renameForCall_withTrace (p : IA64ISAPlugin I) (trace : EfiTrace) :
    ({ p with trace := trace } : IA64ISAPlugin I).renameForCall = { p.renameForCall with trace := trace } := by
  unfold renameForCall captureCallOutputRegisters
  dsimp only [saveCallFrame, setCpu, cpu]
  split <;> rfl

theorem restoreCallFrame_withTrace (p : IA64ISAPlugin I) (trace : EfiTrace) (branchTarget : UInt64) :
    ({ p with trace := trace } : IA64ISAPlugin I).restoreCallFrame branchTarget =
      { p.restoreCallFrame branchTarget with trace := trace } := by
  unfold restoreCallFrame
  dsimp only
  split
  · rfl
  · split <;> rfl

theorem decideCond_of_entersGuest (h : EntersGuest g memory instr p target) (htype : instr.type = .BR_COND) :
    p.decideCond g firmware instr memory = { branchTarget := some target, plugin := p, memory := memory } := by
  have htaken := h.taken
  rw [BranchInstruction.takenTarget, htype] at htaken
  dsimp only at htaken
  split at htaken
  case isFalse => cases htaken
  case isTrue hlive =>
    obtain rfl := Option.some.inj htaken
    have hpal : normalizeBranchEntryIP g (instr.source p.cpu) ≠ g.EFI_PAL_PROCEDURE_CODE_ADDR := by
      intro heq
      refine h.not_firmware (.inr ?_)
      rw [heq]
      exact EfiHandoffGlobals.inRegion_add (by decide)
    -- the thunk that links calls a stub
    have hlinks : ¬ (instr.source p.cpu ≥ g.EFI_HANDOFF_REGION_BASE ∧
        instr.source p.cpu < g.EFI_HANDOFF_REGION_BASE + 0x1000) := fun hstub =>
      h.not_firmware (.inl (EfiHandoffGlobals.inRegion_of_between (by decide) hstub.1 hstub.2))
    rw [decideCond, if_pos hlive]
    dsimp only
    rw [if_neg hpal, if_neg hpal, if_neg fun hall => hlinks hall.2.2.2.2, decide_eq_false hpal]

theorem decideCall_of_entersGuest (firmware : Firmware I M) (h : EntersGuest g memory instr p target)
    (htype : instr.type = .BR_CALL) :
    ∃ trace, p.decideCall g firmware instr memory =
      { branchTarget := some target, plugin := { p.renameForCall with trace := trace }, memory := memory } := by
  have htaken := h.taken
  rw [BranchInstruction.takenTarget, htype] at htaken
  dsimp only at htaken
  split at htaken
  case isFalse => cases htaken
  case isTrue hlive =>
    have hsource := Option.some.inj htaken
    rw [decideCall, if_pos hlive]
    cases hencoded : instr.branchTarget with
    | some encoded =>
        rw [BranchInstruction.source, hencoded] at hsource
        obtain rfl : encoded = target := hsource
        obtain ⟨trace, htrace⟩ := exists_withTrace p.renameForCall
        exact ⟨trace, by rw [← htrace]⟩
    | none =>
        rw [BranchInstruction.source, hencoded] at hsource
        obtain rfl : p.cpu.getBR instr.src1 = target := hsource
        have hcalled := calledDescriptor_eq_none h.not_firmware h.not_descriptor
        have hresolved : ∃ trace, p.resolveIndirectCall g memory (p.cpu.getBR instr.src1) =
            (p.cpu.getBR instr.src1, { p with trace := trace }) := by
          rw [resolveIndirectCall, hcalled]
          exact ⟨_, rfl⟩
        obtain ⟨trace, hresolved⟩ := hresolved
        have hentry : firmwareEntry g memory (p.cpu.getBR instr.src1) = none :=
          firmwareEntry_eq_none h.not_firmware (h.not_null (.inr ⟨htype, hencoded⟩))
        refine ⟨trace, ?_⟩
        dsimp only
        rw [hresolved]
        dsimp only
        rw [hentry, ← renameForCall_withTrace]

/-- The predicate of a taken branch holds, but for the modulo-scheduled loops, which have none. -/
theorem livePredicateTrue_of_taken {cpu : CPUState} (h : instr.takenTarget cpu = some target)
    (hctop : instr.type ≠ .BR_CTOP) (hcexit : instr.type ≠ .BR_CEXIT) : instr.livePredicateTrue cpu = true := by
  rw [BranchInstruction.takenTarget] at h
  cases htype : instr.type with
  | BR_CTOP => exact absurd htype hctop
  | BR_CEXIT => exact absurd htype hcexit
  | BR_CLOOP =>
      rw [htype] at h
      dsimp only at h
      split at h
      case isTrue hboth => exact (Bool.and_eq_true_iff.mp hboth).1
      case isFalse => cases h
  | _ =>
      rw [htype] at h
      dsimp only at h
      split at h
      case isTrue hlive => exact hlive
      case isFalse => cases h

/-- The registers that the decision for a taken branch renames: for the callee, or for the next stage of a loop. -/
def renameForBranch (instr : BranchInstruction) (p : IA64ISAPlugin I) : IA64ISAPlugin I :=
  match instr.type with
  | .BR_CALL => p.renameForCall
  | .BR_CTOP => p.setCpu (p.cpu.executeModuloLoopStage false).2
  | .BR_CEXIT => p.setCpu (p.cpu.executeModuloLoopStage true).2
  | _ => p

/-- The decision for a branch into guest code is its target, and nothing but a call leaves a trace of it. -/
theorem decideBranch_of_entersGuest (firmware : Firmware I M) (h : EntersGuest g memory instr p target) :
    ∃ trace, p.decideBranch g firmware instr memory =
      { branchTarget := some target, plugin := { p.renameForBranch instr with trace := trace }, memory := memory } := by
  cases htype : instr.type with
  | BR_COND =>
      rw [decideBranch, renameForBranch, htype]
      exact ⟨_, decideCond_of_entersGuest h htype⟩
  | BR_CALL =>
      obtain ⟨trace, hcall⟩ := decideCall_of_entersGuest firmware h htype
      rw [decideBranch, renameForBranch, htype]
      dsimp only
      rw [if_neg (by rw [h.not_countedLoop]; decide), hcall]
      exact ⟨trace, rfl⟩
  | _ =>
      rw [decideBranch, renameForBranch, htype]
      dsimp only
      rw [h.taken]
      exact ⟨_, rfl⟩

/-- A counted loop that goes round has a count left. -/
theorem count_ne_zero_of_taken (h : EntersGuest g memory instr p target) (htype : instr.type = .BR_CLOOP) :
    p.cpu.getAR 65 ≠ 0 := by
  have htaken := h.taken
  rw [BranchInstruction.takenTarget, htype] at htaken
  dsimp only at htaken
  split at htaken
  case isTrue hboth => exact bne_iff_ne.mp (Bool.and_eq_true_iff.mp hboth).2
  case isFalse => cases htaken

/-- **A branch into guest code follows its target**, whatever the bytes there are. -/
theorem executeBranch_eq_follow (firmware : Firmware I M) (h : EntersGuest g memory instr p target) :
    ∃ trace, p.executeBranch g firmware instr memory =
      (.CONTINUE, { p.follow g instr target with trace := trace }, memory) := by
  obtain ⟨trace, hdecide⟩ := decideBranch_of_entersGuest firmware h
  have hlive := livePredicateTrue_of_taken h.taken
  have hcount := count_ne_zero_of_taken h
  rw [executeBranch_of_decideBranch hdecide h.not_descriptor, enterTarget_of_entersGuest h]
  unfold follow renameForBranch applyBranch executeBranchRegisters
  rw [h.not_countedLoop]
  cases htype : instr.type with
  | BR_CTOP | BR_CEXIT => exact ⟨_, rfl⟩
  | BR_CALL =>
      rw [hlive (by rw [htype]; decide) (by rw [htype]; decide), brCall, resolveBranchTarget_none]
      generalize p.renameForCall = q
      exact ⟨_, rfl⟩
  | BR_RET =>
      rw [hlive (by rw [htype]; decide) (by rw [htype]; decide), brRet, resolveBranchTarget_none]
      dsimp only
      rw [if_pos rfl]
      show ∃ _, (_, ((({ p with trace := trace } : IA64ISAPlugin I).restoreCallFrame _).rememberBranchTarget
        _).enterBundle _, _) = _
      rw [restoreCallFrame_withTrace]
      exact ⟨_, rfl⟩
  | BR_COND =>
      rw [hlive (by rw [htype]; decide) (by rw [htype]; decide)]
      exact ⟨_, rfl⟩
  | BR_CLOOP =>
      rw [hlive (by rw [htype]; decide) (by rw [htype]; decide)]
      dsimp only
      rw [if_neg (by decide), if_neg (by decide), if_neg (by decide), if_neg (by decide), if_pos (hcount htype)]
      exact ⟨_, rfl⟩

end Kinds

/-! ## What a call leaves -/

/-- A call through branch register `dst`: the link, the caller's frame marker in `AR.PFS`, and a frame of the caller's
    outputs over the saved one. -/
structure OpensFrame (p callee : IA64ISAPlugin I) (dst : Fin 8) : Prop where
  link : callee.cpu.getBR dst = architecturalInstructionPointer p.cpu + 16
  pfs : callee.cpu.getAR 64 = p.cpu.cfm
  frame : callee.cpu.cfm = callerOutputCount p.cpu
  bsp : callee.cpu.getBSP = CPUState.skipRseRegisters p.cpu.getBSP p.cpu.getSOL.toNat
  saved : callee.frames.callFrameStack = p.frames.callFrameStack ++ [.capture p.cpu (p.cpu.ip + 16)]

/-- Writing registers in sequence changes nothing but the register file. -/
theorem writeStacked_eq (cpu : CPUState) (k : Nat) (vs : List UInt64) :
    ∃ gr, cpu.writeStacked k vs = { cpu with gr := gr } := by
  induction vs generalizing cpu k with
  | nil => exact ⟨cpu.gr, rfl⟩
  | cons v vs ih =>
      unfold CPUState.writeStacked
      split
      · obtain ⟨gr, hgr⟩ := ih (cpu.setGR (stackedGR ⟨k, ‹_›⟩) v) (k + 1)
        refine ⟨gr, hgr.trans ?_⟩
        unfold CPUState.setGR
        split <;> rfl
      · exact ⟨cpu.gr, rfl⟩

theorem pointer_renameForCall (p : IA64ISAPlugin I) :
    architecturalInstructionPointer p.renameForCall.cpu = architecturalInstructionPointer p.cpu := by
  have hkept : ∃ gr, (p.saveCallFrame (p.cpu.ip + 16)).captureCallOutputRegisters.cpu = { p.cpu with gr := gr } := by
    simp only [captureCallOutputRegisters]
    split
    · exact ⟨p.cpu.gr, rfl⟩
    · obtain ⟨gr, hgr⟩ := writeStacked_eq p.cpu 0 (List.replicate 96 0)
      rw [cpu, setCpu, cpu_saveCallFrame, hgr]
      obtain ⟨gr', hgr'⟩ := writeStacked_eq { p.cpu with gr := gr } 0
        (readOutputs p.cpu (32 + p.cpu.getSOL.toNat) (p.cpu.getSOF.toNat - p.cpu.getSOL.toNat))
      exact ⟨gr', hgr'⟩
  obtain ⟨gr, hgr⟩ := hkept
  rw [renameForCall_eq, cpu_setCpu, hgr]
  rfl

theorem opensFrame_brCall (g : EfiHandoffGlobals) (p : IA64ISAPlugin I) (dst : Fin 8) :
    OpensFrame p (p.brCall g dst target none) dst where
  link := by
    show (p.renameForCall.cpu.setBR dst (architecturalInstructionPointer p.renameForCall.cpu + 16)).getBR dst = _
    rw [pointer_renameForCall, CPUState.getBR, CPUState.setBR, Fin.getElem_fin, Vector.getElem_set_self]
  pfs := by
    show p.renameForCall.cpu.getAR 64 = _
    rw [renameForCall_eq, cpu_setCpu, cfm_captureCallOutputRegisters]
    exact CPUState.getAR_setAR_self _ 64 _
  frame := cfm_renameForCall p
  bsp := getBSP_brCall g p target none dst
  saved := (callFrameStack_brCall g p target none dst).1

/-- Outside the handoff region only the kernel's virtual image is moved. -/
theorem normalizeBranchEntryIP_of_guest (h : ¬ g.IsFirmwareEntry target) :
    normalizeBranchEntryIP g target = normalizeKernelEntryIP target := by
  by_cases hmoved : normalizeBranchEntryIP g target = normalizeKernelEntryIP target
  · exact hmoved
  · exfalso
    refine h (.inr ?_)
    unfold normalizeBranchEntryIP at hmoved ⊢
    dsimp only at hmoved ⊢
    split at hmoved
    case isTrue hregion =>
      rw [if_pos hregion]
      exact EfiHandoffGlobals.inRegion_of_between le_rfl hregion.2.1 hregion.2.2
    case isFalse => exact absurd rfl hmoved

/-! ## Fetching -/

variable {decodeBundleAt : List UInt8 → UInt64 → Option (Bundle I)}

theorem fetchBundle_of_no_descriptor (h : fetchDescriptor g memory p.cpu.ip = none) :
    p.fetchBundle g decodeBundleAt memory = p.loadBundle decodeBundleAt memory := by
  unfold fetchBundle
  rw [h]
  unfold loadBundle
  cases IMemory.read memory p.cpu.ip 16 with
  | error _ => rfl
  | ok bytes => rfl

theorem cpu_loadBundle : (p.loadBundle decodeBundleAt memory).cpu = p.cpu := by
  unfold loadBundle
  split
  · rfl
  · split <;> rfl

end IA64ISAPlugin

/-! ## Architectural control flow -/

section Claims
variable {I M : Type _} [IMemory M] (g : EfiHandoffGlobals)
open IA64ISAPlugin

/-- The next IP of every branch taken into guest code is its aligned target, and what the bytes of guest memory are
    does not show in the general registers. -/
def BranchesArchitecturally (firmware : Firmware I M) (p : IA64ISAPlugin I) (memory : M) : Prop :=
  ∀ (instr : BranchInstruction) (target : UInt64), instr.takenTarget p.cpu = some target → ¬ g.IsFirmwareEntry target →
    (p.executeBranch g firmware instr memory).2.1.cpu.ip = target &&& ~~~0xF ∧
      ∀ memory' : M, getTotalSize memory' = getTotalSize memory →
        (p.executeBranch g firmware instr memory').2.1.cpu.gr = (p.executeBranch g firmware instr memory).2.1.cpu.gr

/-- Every call with a true predicate into guest code links and opens a frame. -/
def CallsArchitecturally (firmware : Firmware I M) (p : IA64ISAPlugin I) (memory : M) : Prop :=
  ∀ (instr : BranchInstruction) (target : UInt64), instr.type = .BR_CALL → instr.takenTarget p.cpu = some target →
    ¬ g.IsFirmwareEntry target → OpensFrame p (p.executeBranch g firmware instr memory).2.1 instr.dst

/-- What is fetched at IP is executed at IP. -/
def FetchesArchitecturally (decodeBundleAt : List UInt8 → UInt64 → Option (Bundle I)) (p : IA64ISAPlugin I)
    (memory : M) : Prop := (p.fetchBundle g decodeBundleAt memory).cpu = p.cpu

/-- **Guest control flow.** A branch into guest code is the architectural one: the next IP is its aligned target, with
    the kernel's virtual image moved to where it runs, and a call links and opens a frame. What is fetched at IP is
    executed at IP, where it is not read as a function descriptor. -/
theorem branch_architectural (firmware : Firmware I M) (decodeBundleAt : List UInt8 → UInt64 → Option (Bundle I))
    (p : IA64ISAPlugin I) (memory : M) :
    (∀ (instr : BranchInstruction) (target : UInt64), EntersGuest g memory instr p target →
      ∃ trace, p.executeBranch g firmware instr memory =
          (.CONTINUE, { p.follow g instr target with trace := trace }, memory) ∧
        (p.follow g instr target).cpu.ip = normalizeKernelEntryIP target ∧
        (instr.type = .BR_CALL → OpensFrame p (p.follow g instr target) instr.dst)) ∧
      (fetchDescriptor g memory p.cpu.ip = none →
        p.fetchBundle g decodeBundleAt memory = p.loadBundle decodeBundleAt memory ∧
          FetchesArchitecturally g decodeBundleAt p memory) := by
  refine ⟨fun instr target h => ?_, fun h => ⟨fetchBundle_of_no_descriptor h, ?_⟩⟩
  · obtain ⟨trace, hfollow⟩ := executeBranch_eq_follow firmware h
    refine ⟨trace, hfollow, ?_, fun hcall => ?_⟩
    · rw [ip_follow, normalizeBranchEntryIP_of_guest h.not_firmware]
    · rw [follow, hcall]
      exact opensFrame_brCall g p instr.dst
  · rw [FetchesArchitecturally, fetchBundle_of_no_descriptor h, cpu_loadBundle]

end Claims

/-- A word at `0x20` names the code at `0x40`, the next is its global pointer. -/
def descriptorMemory : FlatMemory :=
  ⟨List.replicate 0x20 0 ++ [0x40, 0, 0, 0, 0, 0, 0, 0] ++ [0x33, 0, 0, 0, 0, 0, 0, 0] ++ List.replicate 0x30 0⟩

def silentFirmware : Firmware Unit FlatMemory where
  palProcedure p := p
  serve _ _ p memory := (p, memory)

def pluginAt (ip : UInt64) : IA64ISAPlugin Unit :=
  (IA64ISAPlugin.reset (I := Unit)).2.setCpu (CPUState.reset.setIP ip)

/-- A call from `0` to `0x40`, where the bytes are no descriptor. -/
theorem branch_architectural_call :
    ∃ trace, (pluginAt 0).executeBranch resetEfiHandoffLayoutGlobals silentFirmware
        { type := .BR_CALL, branchTarget := some 0x40 } descriptorMemory =
      (.CONTINUE, { (pluginAt 0).follow resetEfiHandoffLayoutGlobals { type := .BR_CALL, branchTarget := some 0x40 } 0x40
        with trace := trace }, descriptorMemory) := by
  have hcall := (branch_architectural resetEfiHandoffLayoutGlobals silentFirmware (fun _ _ => none) (pluginAt 0)
    descriptorMemory).1 { type := .BR_CALL, branchTarget := some 0x40 } 0x40
  obtain ⟨trace, hfollow, -⟩ := hcall
    ⟨rfl, by decide +kernel, by decide +kernel, by decide +kernel, by decide +kernel, by decide +kernel⟩
  exact ⟨trace, hfollow⟩

def noDecoder (_ : List UInt8) (_ : UInt64) : Option (Bundle Unit) := none

/-- **Code read as a descriptor**: a branch to `0x20` ends up at `0x40`, and so does a fetch there. A call through
    `b5` to a place just before it is not taken at all while `AR.LC` is zero. -/
theorem branch_not_architectural :
    ¬ BranchesArchitecturally resetEfiHandoffLayoutGlobals silentFirmware (pluginAt 0) descriptorMemory ∧
      ¬ CallsArchitecturally resetEfiHandoffLayoutGlobals silentFirmware (pluginAt 0x50) descriptorMemory ∧
      ¬ FetchesArchitecturally resetEfiHandoffLayoutGlobals noDecoder (pluginAt 0x20) descriptorMemory := by
  refine ⟨fun h => ?_, fun h => ?_, fun h => ?_⟩
  · have hip := (h { type := .BR_COND, branchTarget := some 0x20 } 0x20 (by decide +kernel) (by decide +kernel)).1
    revert hip
    decide +kernel
  · have hlink := (h { type := .BR_CALL, dst := 5, branchTarget := some 0x40 } 0x40 rfl (by decide +kernel)
      (by decide +kernel)).link
    revert hlink
    decide +kernel
  · have hip := congrArg CPUState.ip h
    revert hip
    decide +kernel

end GuideXOS.Isa
