import GuideXOS.Lib.Unwinding
import GuideXOS.Core.BackingStore
import GuideXOS.Isa.CallFrames

/-!
# `Returns` — what `br.ret` gives back

`br.call` pushes a snapshot of its caller. `br.ret` looks for the innermost snapshot with the address it returns to,
drops it with all above it, and writes it back; a snapshot that was used is kept by its return address, for code that
returns there once more. `AR.BSP` is not in the snapshot: it is moved back by the locals of the caller.

A `ReturnMonitor` keeps, beside the plugin, the state of each caller just before its call. `Restores` says that a
return gives the caller back what it had, `Returnable` when it does; `return_run_restores_iff` is the run.
-/

namespace GuideXOS.Core.CPUState
open GuideXOS.Isa

/-! ## Where `AR.BSP` points -/

variable (s : CPUState)

theorem getBSP_setGR (i : Fin 128) (v : UInt64) : (s.setGR i v).getBSP = s.getBSP := by
  unfold setGR
  split <;> rfl

theorem getBSP_setIP (v : UInt64) : (s.setIP v).getBSP = s.getBSP := rfl

theorem getBSP_writeStacked (k : Nat) (vs : List UInt64) : (s.writeStacked k vs).getBSP = s.getBSP := by
  induction vs generalizing s k with
  | nil => rfl
  | cons v vs ih =>
      unfold writeStacked
      split
      · rw [ih, getBSP_setGR]
      · rfl

end GuideXOS.Core.CPUState

namespace GuideXOS.Isa
open Lib Lib.Words Lib.Runs Lib.Unwinding GuideXOS.Core

/-! ## Writing back a frame -/

section Restore
variable (cpu caller : CPUState) (returnAddress : UInt64)

theorem cfm_restoreFrame (frame : CallFrameSnapshot) :
    (IA64ISAPlugin.restoreFrame cpu frame).cfm = frame.cfm := by
  rw [IA64ISAPlugin.restoreFrame, CPUState.cfm_writeStacked, CPUState.cfm_setCFM]

theorem getBSP_restoreFrame (frame : CallFrameSnapshot) :
    (IA64ISAPlugin.restoreFrame cpu frame).getBSP = cpu.getBSP := by
  rw [IA64ISAPlugin.restoreFrame, CPUState.getBSP_writeStacked]
  rfl

/-- **What a snapshot brings back**: the values of the stacked registers, without their NaT bits. -/
theorem stackedView_restoreFrame (i : Fin 96) :
    (IA64ISAPlugin.restoreFrame cpu (.capture caller returnAddress)).stackedView i =
      ((caller.stackedView i).1, false) := by
  have hphys : (cpu.setCFM caller.cfm).stackedPhysical i = caller.stackedPhysical i :=
    CPUState.stackedPhysical_of_cfm (CPUState.cfm_setCFM _ _) i
  by_cases hin : caller.stackedPhysical i < 144
  · refine CPUState.stackedView_writeStacked (hphys.trans_lt hin) (Nat.zero_le _) ?_
    simp [CallFrameSnapshot.capture, CPUState.stackedView]
  · -- a rotating region that runs past the register file reads as zero there, and is not written
    have hout : ∀ f : GRFile, f.get (caller.stackedPhysical i) = 0 ∧ f.getNaT (caller.stackedPhysical i) = false := by
      intro f
      simp [GRFile.get, GRFile.getNaT, hin]
    have hcfm : (IA64ISAPlugin.restoreFrame cpu (.capture caller returnAddress)).cfm = caller.cfm :=
      cfm_restoreFrame cpu _
    rw [CPUState.stackedView_eq, CPUState.stackedView_eq, CPUState.stackedPhysical_of_cfm hcfm, (hout _).1, (hout _).2,
      (hout caller.gr).1]

end Restore

/-! ## Calls and returns of a run -/

/-- A call: the address it returns to, its caller just before, and `AR.BSP` on entry of its callee. -/
structure CallRecord where
  returnAddress : UInt64
  caller : CPUState
  entryBsp : UInt64

namespace CallRecord

variable (r : CallRecord)

/-- The snapshot that `br.call` pushes. -/
def frame : CallFrameSnapshot := .capture r.caller r.returnAddress

theorem callerSol_frame : ((r.frame.cfm >>> 7) &&& 0x7F).toUInt8 = r.caller.getSOL := rfl

@[simp] theorem returnAddress_frame : r.frame.returnAddress = r.returnAddress := rfl

/-- No stacked register of the caller had its NaT bit set. -/
def NoNaT : Prop := ∀ i : Fin 96, (r.caller.stackedView i).2 = false

/-- `AR.BSP` lies where the callee found it, or in the collection of NaT bits right before; a caller without locals
    was not moved at all. -/
def BspKept (bsp : UInt64) : Prop :=
  if r.caller.getSOL = 0 then bsp = r.caller.getBSP
  else ¬ IsRnatSlot r.caller.getBSP ∧ (bsp = r.entryBsp ∨ IsRnatSlot bsp ∧ wordsAfter bsp 1 = r.entryBsp)

/-- The addresses from which the return finds the way back to the caller's. -/
theorem bspKept_iff {r : CallRecord}
    (hentry : r.entryBsp = CPUState.skipRseRegisters r.caller.getBSP r.caller.getSOL.toNat) (bsp : UInt64) :
    r.BspKept bsp ↔ CPUState.skipRseRegisters bsp (-r.caller.getSOL.toNat) = r.caller.getBSP := by
  unfold BspKept
  by_cases hsol : r.caller.getSOL = 0
  · rw [if_pos hsol, hsol]
    exact Iff.rfl
  · have hpos : 0 < r.caller.getSOL.toNat := by
      refine Nat.pos_of_ne_zero ?_
      intro hzero
      exact hsol (UInt8.toNat_inj.mp hzero)
    have hlt := r.caller.getSOL.toNat_lt
    rw [if_neg hsol, hentry, CPUState.skipRseRegisters_neg_eq_iff hpos (by omega)]

end CallRecord

/-- The frame marker, all stacked registers with their NaT bits, and `AR.BSP` are what the caller had. -/
def GivenBack (cpu caller : CPUState) : Prop :=
  cpu.cfm = caller.cfm ∧ (∀ i, cpu.stackedView i = caller.stackedView i) ∧ cpu.getBSP = caller.getBSP

/-- A plugin with the calls of the run: those that have not returned, innermost first, and for each address the one
    that returned there last. -/
structure ReturnMonitor (I : Type _) where
  plugin : IA64ISAPlugin I
  active : List CallRecord := []
  completed : UInt64 → Option CallRecord := fun _ => none

namespace ReturnMonitor
variable {I : Type _} (g : EfiHandoffGlobals)

variable (m : ReturnMonitor I)

/-- The address a `br.ret` returns to. -/
def returnTarget (branchTarget : UInt64) (descriptor : Option FunctionDescriptor) : UInt64 :=
  normalizeBranchEntryIP g (m.plugin.resolveBranchTarget branchTarget descriptor).1

/-- The call with a given return address that was made last among those that have not returned, with the ones below
    it. -/
def activeCall (target : UInt64) : Option (CallRecord × List CallRecord) :=
  unwind (fun r => r.returnAddress = target) m.active

/-- The call a return to an address matches: one that has not returned yet, or else the last one that did. -/
def matchingCall (target : UInt64) : Option CallRecord :=
  match m.activeCall target with
  | some (r, _) => some r
  | none => m.completed target

/-- One operation. A return through frames abandons the calls above the one it matches. -/
def step : FrameOp → ReturnMonitor I
  | .brCall dst branchTarget descriptor =>
      let entered := m.plugin.brCall g dst branchTarget descriptor
      { m with plugin := entered, active := ⟨m.plugin.cpu.ip + 16, m.plugin.cpu, entered.cpu.getBSP⟩ :: m.active }
  | .alloc dst immediate =>
      match m.plugin.alloc dst immediate with
      | some p' => { m with plugin := p' }
      | none => m
  | .brRet branchTarget descriptor =>
      let target := m.returnTarget g branchTarget descriptor
      let returned := m.plugin.brRet g branchTarget descriptor
      match m.activeCall target with
      | some (r, below) =>
          { plugin := returned, active := below, completed := fun a => if target = a then some r else m.completed a }
      | none => { m with plugin := returned }
  | .execute cpu => { m with plugin := m.plugin.setCpu cpu }

/-- **The caller gets back what it had** just before the call that the return matches. -/
def Restores : FrameOp → Prop
  | .brRet branchTarget descriptor =>
      ∀ r ∈ m.matchingCall (m.returnTarget g branchTarget descriptor),
        GivenBack (m.plugin.brRet g branchTarget descriptor).cpu r.caller
  | _ => True

/-- **When it does**: the caller had no NaT bit in a stacked register, and `AR.BSP` is where the callee found it, or,
    for a call that had returned already, where the caller had it. -/
def Returnable : FrameOp → Prop
  | .brRet branchTarget descriptor =>
      let target := m.returnTarget g branchTarget descriptor
      match m.activeCall target with
      | some (r, _) => r.NoNaT ∧ r.BspKept m.plugin.cpu.getBSP
      | none => ∀ r ∈ m.completed target, r.NoNaT ∧ m.plugin.cpu.getBSP = r.caller.getBSP
  | _ => True

/-- The plugin's snapshots are those of the calls, and the BSP of each callee is what the call made of its caller's. -/
structure Sound (m : ReturnMonitor I) : Prop where
  stack : m.plugin.frames.callFrameStack = (m.active.map CallRecord.frame).reverse
  completed : ∀ a, m.plugin.frames.completedCallFrames.find? a = (m.completed a).map CallRecord.frame
  entry : ∀ r ∈ m.active, r.entryBsp = CPUState.skipRseRegisters r.caller.getBSP r.caller.getSOL.toNat

end ReturnMonitor

/-! ## What the operations do to the snapshots and to `AR.BSP` -/

namespace IA64ISAPlugin
variable {I : Type _} (g : EfiHandoffGlobals) (p : IA64ISAPlugin I) (branchTarget : UInt64)
  (descriptor : Option FunctionDescriptor)

theorem getBSP_resolveBranchTarget :
    (p.resolveBranchTarget branchTarget descriptor).2.cpu.getBSP = p.cpu.getBSP := by
  cases descriptor with
  | none => rfl
  | some d =>
      simp only [resolveBranchTarget]
      split
      · rfl
      · show (ite _ (p.cpu.setGR 1 d.descriptorGp) p.cpu : CPUState).getBSP = _
        split
        · exact CPUState.getBSP_setGR _ _ _
        · rfl

theorem getBSP_captureCallOutputRegisters : p.captureCallOutputRegisters.cpu.getBSP = p.cpu.getBSP := by
  simp only [captureCallOutputRegisters]
  split
  · rfl
  · rw [cpu, setCpu, CPUState.getBSP_writeStacked, CPUState.getBSP_writeStacked]

/-- A call moves `AR.BSP` past the locals of its caller. -/
theorem getBSP_brCall (dst : Fin 8) :
    (p.brCall g dst branchTarget descriptor).cpu.getBSP =
      CPUState.skipRseRegisters p.cpu.getBSP p.cpu.getSOL.toNat := by
  have hsol : (p.saveCallFrame (p.cpu.ip + 16)).captureCallOutputRegisters.cpu.getSOL = p.cpu.getSOL := by
    rw [CPUState.getSOL, cfm_captureCallOutputRegisters]
    rfl
  show (p.renameForCall.resolveBranchTarget branchTarget descriptor).2.cpu.getBSP = _
  rw [getBSP_resolveBranchTarget, renameForCall_eq, cpu_setCpu]
  show ((CPUState.advanceBSPForCall _).setAR 64 _).getAR 17 = _
  rw [CPUState.getAR_setAR_ne (by decide)]
  show (CPUState.advanceBSPForCall _).getBSP = _
  rw [CPUState.getBSP_advanceBSPForCall, getBSP_captureCallOutputRegisters, hsol, cpu_saveCallFrame]

theorem callFrameStack_brCall (dst : Fin 8) :
    (p.brCall g dst branchTarget descriptor).frames.callFrameStack =
        p.frames.callFrameStack ++ [.capture p.cpu (p.cpu.ip + 16)] ∧
      (p.brCall g dst branchTarget descriptor).frames.completedCallFrames = p.frames.completedCallFrames := by
  have hframes : (p.renameForCall.resolveBranchTarget branchTarget descriptor).2.frames =
      (p.saveCallFrame (p.cpu.ip + 16)).captureCallOutputRegisters.frames := by
    rw [frames_resolveBranchTarget, renameForCall_eq, frames_setCpu]
  show (p.renameForCall.resolveBranchTarget branchTarget descriptor).2.frames.callFrameStack = _ ∧
    (p.renameForCall.resolveBranchTarget branchTarget descriptor).2.frames.completedCallFrames = _
  rw [hframes]
  simp only [captureCallOutputRegisters]
  split <;> exact ⟨rfl, rfl⟩

theorem callFrameStack_alloc {p p' : IA64ISAPlugin I} {dst : Fin 128} {immediate : UInt64}
    (h : p.alloc dst immediate = some p') :
    p'.frames.callFrameStack = p.frames.callFrameStack ∧
      p'.frames.completedCallFrames = p.frames.completedCallFrames := by
  rw [alloc_eq_some h]
  unfold applyPendingCallInputRegisters
  split <;> exact ⟨rfl, rfl⟩

theorem restoreCallFrame_of_found {p : IA64ISAPlugin I} {target : UInt64} {k : Nat} {frame : CallFrameSnapshot}
    (h : findCallFrame target p.frames.callFrameStack = some (k, frame)) :
    p.restoreCallFrame target =
      { p.setCpu (restoreFrame (p.cpu.rewindBSPForReturn ((frame.cfm >>> 7) &&& 0x7F).toUInt8) frame) with
        frames := { p.frames with
          completedCallFrames := p.frames.completedCallFrames.insert frame.returnAddress frame
          callFrameStack := p.frames.callFrameStack.take k } } := by
  unfold restoreCallFrame
  rw [h]

theorem restoreCallFrame_of_not_found {p : IA64ISAPlugin I} {target : UInt64}
    (h : findCallFrame target p.frames.callFrameStack = none) :
    p.restoreCallFrame target =
      (p.frames.completedCallFrames.find? target).elim p fun frame => p.setCpu (restoreFrame p.cpu frame) := by
  unfold restoreCallFrame
  rw [h]
  cases p.frames.completedCallFrames.find? target <;> rfl

end IA64ISAPlugin

namespace ReturnMonitor
variable {I : Type _} {g : EfiHandoffGlobals} {m : ReturnMonitor I} {branchTarget target : UInt64}
  {descriptor : Option FunctionDescriptor} {below : List CallRecord}
open IA64ISAPlugin

/-- A return is `restoreCallFrame`, once the target is known; entering the bundle changes no register. -/
theorem brRet_eq (g : EfiHandoffGlobals) (m : ReturnMonitor I) (branchTarget : UInt64)
    (descriptor : Option FunctionDescriptor) :
    (m.plugin.brRet g branchTarget descriptor).cpu =
        ((m.plugin.resolveBranchTarget branchTarget descriptor).2.restoreCallFrame
          (m.returnTarget g branchTarget descriptor)).cpu.setIP (m.returnTarget g branchTarget descriptor) ∧
      (m.plugin.brRet g branchTarget descriptor).frames =
        ((m.plugin.resolveBranchTarget branchTarget descriptor).2.restoreCallFrame
          (m.returnTarget g branchTarget descriptor)).frames :=
  ⟨rfl, rfl⟩

/-! ## The search -/

/-- **The plugin finds the call that the monitor finds.** -/
theorem findCallFrame_eq (h : m.Sound) (target : UInt64) :
    (findCallFrame target m.plugin.frames.callFrameStack).map
        (fun e => (e.2, (m.plugin.frames.callFrameStack.take e.1).reverse)) =
      (m.activeCall target).map fun e => (e.1.frame, e.2.map CallRecord.frame) := by
  have hsearch := unwind_reverse (fun f : CallFrameSnapshot => f.returnAddress = target) m.plugin.frames.callFrameStack
  have hmap := unwind_map (p := fun r : CallRecord => r.returnAddress = target)
    (q := fun f : CallFrameSnapshot => f.returnAddress = target) (f := CallRecord.frame) (fun _ => rfl) m.active
  have hstack : m.plugin.frames.callFrameStack.reverse = m.active.map CallRecord.frame := by
    rw [h.stack, List.reverse_reverse]
  rw [hstack, hmap] at hsearch
  exact hsearch.symm

theorem findCallFrame_of_active (h : m.Sound) {r : CallRecord} (hcall : m.activeCall target = some (r, below)) :
    ∃ k, findCallFrame target m.plugin.frames.callFrameStack = some (k, r.frame) ∧
      m.plugin.frames.callFrameStack.take k = (below.map CallRecord.frame).reverse := by
  have hfind := findCallFrame_eq h target
  rw [hcall, Option.map_some] at hfind
  obtain ⟨⟨k, f⟩, hk, he⟩ := Option.map_eq_some_iff.mp hfind
  obtain ⟨hf, hbelow⟩ := Prod.mk.inj he
  subst hf
  refine ⟨k, hk, ?_⟩
  rw [← hbelow, List.reverse_reverse]

theorem findCallFrame_of_inactive (h : m.Sound) (hcall : m.activeCall target = none) :
    findCallFrame target m.plugin.frames.callFrameStack = none := by
  have hfind := findCallFrame_eq h target
  rw [hcall, Option.map_none] at hfind
  exact Option.map_eq_none_iff.mp hfind

/-! ## One return -/

/-- A frame that was written back: its CFM always, its registers if none had a NaT bit, and the BSP of before. -/
theorem givenBack_restoreFrame (cpu : CPUState) (r : CallRecord) (entry : UInt64) :
    GivenBack ((restoreFrame cpu r.frame).setIP entry) r.caller ↔ r.NoNaT ∧ cpu.getBSP = r.caller.getBSP := by
  have hcfm : ((restoreFrame cpu r.frame).setIP entry).cfm = r.caller.cfm := by
    rw [CPUState.cfm_setIP]
    exact cfm_restoreFrame cpu r.frame
  have hview : ∀ i, ((restoreFrame cpu r.frame).setIP entry).stackedView i = ((r.caller.stackedView i).1, false) := by
    intro i
    rw [CPUState.stackedView_congr (CPUState.gr_setIP _ _) (CPUState.cfm_setIP _ _)]
    exact stackedView_restoreFrame cpu r.caller r.returnAddress i
  have hbsp : ((restoreFrame cpu r.frame).setIP entry).getBSP = cpu.getBSP := by
    rw [CPUState.getBSP_setIP]
    exact getBSP_restoreFrame cpu r.frame
  rw [GivenBack, hbsp]
  constructor
  · rintro ⟨-, hregisters, hb⟩
    refine ⟨?_, hb⟩
    intro i
    rw [← hregisters i, hview i]
  · rintro ⟨hnat, hb⟩
    refine ⟨hcfm, ?_, hb⟩
    intro i
    rw [hview i, ← hnat i]

section Return
variable {p : IA64ISAPlugin I} {r : CallRecord}

theorem restoreCallFrame_of_active (h : m.Sound) (hp : p.frames = m.plugin.frames)
    (hcall : m.activeCall target = some (r, below)) :
    (p.restoreCallFrame target).cpu = restoreFrame (p.cpu.rewindBSPForReturn r.caller.getSOL) r.frame ∧
      (p.restoreCallFrame target).frames = { m.plugin.frames with
        completedCallFrames := m.plugin.frames.completedCallFrames.insert r.returnAddress r.frame
        callFrameStack := (below.map CallRecord.frame).reverse } := by
  obtain ⟨k, hfind, hbelow⟩ := findCallFrame_of_active h hcall
  rw [← hp] at hfind hbelow ⊢
  rw [restoreCallFrame_of_found hfind, ← hbelow, CallRecord.callerSol_frame, CallRecord.returnAddress_frame]
  generalize restoreFrame (p.cpu.rewindBSPForReturn r.caller.getSOL) r.frame = restored
  exact ⟨rfl, rfl⟩

theorem restoreCallFrame_of_inactive (h : m.Sound) (hp : p.frames = m.plugin.frames)
    (hcall : m.activeCall target = none) :
    (p.restoreCallFrame target).frames = m.plugin.frames ∧
      ∀ r ∈ m.completed target, (p.restoreCallFrame target).cpu = restoreFrame p.cpu r.frame := by
  have hfind := findCallFrame_of_inactive h hcall
  have hcompleted := h.completed target
  rw [← hp] at hfind hcompleted
  rw [restoreCallFrame_of_not_found hfind, hcompleted]
  cases m.completed target with
  | none => exact ⟨hp, fun r hr => by cases hr⟩
  | some r =>
      simp only [Option.map_some, Option.elim_some, frames_setCpu, cpu_setCpu]
      refine ⟨hp, ?_⟩
      intro r' hr
      rw [Option.mem_some.mp hr]

end Return

section
variable (h : m.Sound)
include h

/-- **A return to a call that has not returned yet.** -/
theorem restores_iff_of_active {r : CallRecord}
    (hcall : m.activeCall (m.returnTarget g branchTarget descriptor) = some (r, below)) :
    m.Restores g (.brRet branchTarget descriptor) ↔ r.NoNaT ∧ r.BspKept m.plugin.cpu.getBSP := by
  have hcpu := (brRet_eq g m branchTarget descriptor).1.trans
    (congrArg (CPUState.setIP · (m.returnTarget g branchTarget descriptor))
      (restoreCallFrame_of_active h (frames_resolveBranchTarget _ _ _) hcall).1)
  have hmatch : m.matchingCall (m.returnTarget g branchTarget descriptor) = some r := by
    rw [matchingCall, hcall]
  have hrecord : r ∈ m.active := by
    obtain ⟨-, dropped, hactive⟩ := unwind_eq_some hcall
    rw [hactive]
    simp
  unfold Restores
  dsimp only
  rw [hmatch, hcpu, CallRecord.bspKept_iff (h.entry r hrecord)]
  simp only [Option.mem_def, Option.some.injEq, forall_eq']
  rw [givenBack_restoreFrame, CPUState.getBSP_rewindBSPForReturn, getBSP_resolveBranchTarget]

/-- **A return to a call that had returned already.** -/
theorem restores_iff_of_inactive (hcall : m.activeCall (m.returnTarget g branchTarget descriptor) = none) :
    m.Restores g (.brRet branchTarget descriptor) ↔
      ∀ r ∈ m.completed (m.returnTarget g branchTarget descriptor),
        r.NoNaT ∧ m.plugin.cpu.getBSP = r.caller.getBSP := by
  have hmatch : m.matchingCall (m.returnTarget g branchTarget descriptor) =
      m.completed (m.returnTarget g branchTarget descriptor) := by
    rw [matchingCall, hcall]
  unfold Restores
  dsimp only
  rw [hmatch]
  refine forall₂_congr ?_
  intro r hr
  have hcpu := (brRet_eq g m branchTarget descriptor).1.trans
    (congrArg (CPUState.setIP · (m.returnTarget g branchTarget descriptor))
      ((restoreCallFrame_of_inactive h (frames_resolveBranchTarget _ _ _) hcall).2 r hr))
  rw [hcpu, givenBack_restoreFrame, getBSP_resolveBranchTarget]

/-- **One step.** -/
theorem restores_iff (op : FrameOp) : m.Restores g op ↔ m.Returnable g op := by
  cases op with
  | brCall => exact Iff.rfl
  | alloc => exact Iff.rfl
  | execute => exact Iff.rfl
  | brRet branchTarget descriptor =>
      unfold Returnable
      dsimp only
      cases hcall : m.activeCall (m.returnTarget g branchTarget descriptor) with
      | some found => exact restores_iff_of_active h hcall
      | none => exact restores_iff_of_inactive h hcall

/-! ## Runs -/

theorem sound_brCall (dst : Fin 8) : (m.step g (.brCall dst branchTarget descriptor)).Sound := by
  obtain ⟨hstack, hcompleted⟩ := callFrameStack_brCall g m.plugin branchTarget descriptor dst
  constructor
  · show (m.plugin.brCall g dst branchTarget descriptor).frames.callFrameStack = _
    rw [hstack, h.stack]
    show _ = (_ :: m.active.map CallRecord.frame).reverse
    rw [List.reverse_cons]
    rfl
  · intro a
    show (m.plugin.brCall g dst branchTarget descriptor).frames.completedCallFrames.find? a = _
    rw [hcompleted]
    exact h.completed a
  · intro r hr
    rcases List.mem_cons.mp hr with rfl | hr
    · exact getBSP_brCall g m.plugin branchTarget descriptor dst
    · exact h.entry r hr

theorem sound_alloc (dst : Fin 128) (immediate : UInt64) : (m.step g (.alloc dst immediate)).Sound := by
  unfold step
  dsimp only
  cases halloc : m.plugin.alloc dst immediate with
  | none => exact h
  | some p' =>
      obtain ⟨hstack, hcompleted⟩ := callFrameStack_alloc halloc
      constructor
      · show p'.frames.callFrameStack = _
        rw [hstack]
        exact h.stack
      · intro a
        show p'.frames.completedCallFrames.find? a = _
        rw [hcompleted]
        exact h.completed a
      · exact h.entry

theorem sound_brRet : (m.step g (.brRet branchTarget descriptor)).Sound := by
  obtain ⟨-, hframes⟩ := brRet_eq g m branchTarget descriptor
  unfold step
  dsimp only
  cases hcall : m.activeCall (m.returnTarget g branchTarget descriptor) with
  | none =>
      have hkept := hframes.trans (restoreCallFrame_of_inactive h (frames_resolveBranchTarget _ _ _) hcall).1
      constructor
      · show (m.plugin.brRet g branchTarget descriptor).frames.callFrameStack = _
        rw [hkept]
        exact h.stack
      · intro a
        show (m.plugin.brRet g branchTarget descriptor).frames.completedCallFrames.find? a = _
        rw [hkept]
        exact h.completed a
      · exact h.entry
  | some found =>
      obtain ⟨r, below⟩ := found
      have hpopped := hframes.trans (restoreCallFrame_of_active h (frames_resolveBranchTarget _ _ _) hcall).2
      obtain ⟨hr, dropped, hactive⟩ := unwind_eq_some hcall
      constructor
      · show (m.plugin.brRet g branchTarget descriptor).frames.callFrameStack = _
        rw [hpopped]
      · intro a
        show (m.plugin.brRet g branchTarget descriptor).frames.completedCallFrames.find? a =
          (if m.returnTarget g branchTarget descriptor = a then some r else m.completed a).map CallRecord.frame
        rw [hpopped, ← of_decide_eq_true hr, OrdMap.find?_insert, h.completed a]
        by_cases ha : r.returnAddress = a
        · rw [if_pos ha, if_pos ha, Option.map_some]
        · rw [if_neg ha, if_neg ha]
      · intro r' hr'
        refine h.entry r' ?_
        rw [hactive]
        exact List.mem_append_right _ (List.mem_cons_of_mem _ hr')

theorem sound_step (op : FrameOp) : (m.step g op).Sound := by
  cases op with
  | brCall dst branchTarget descriptor => exact sound_brCall h dst
  | alloc dst immediate => exact sound_alloc h dst immediate
  | brRet branchTarget descriptor => exact sound_brRet h
  | execute cpu => exact ⟨h.stack, h.completed, h.entry⟩

end

theorem sound_reset : ({ plugin := IA64ISAPlugin.reset.2 } : ReturnMonitor I).Sound where
  stack := rfl
  completed _ := rfl
  entry r hr := by cases hr

end ReturnMonitor

/-- **Runs from reset.** Every return of a run gives back to the caller of the matching call what it had exactly when
    every return finds `AR.BSP` where the callee did and a caller without NaT bits. -/
theorem return_run_restores_iff {I : Type _} (g : EfiHandoffGlobals) (ops : List FrameOp) :
    EveryStep (ReturnMonitor.step g) (ReturnMonitor.Restores g) { plugin := (IA64ISAPlugin.reset (I := I)).2 } ops ↔
      EveryStep (ReturnMonitor.step g) (ReturnMonitor.Returnable g)
        { plugin := (IA64ISAPlugin.reset (I := I)).2 } ops :=
  everyStep_congr ReturnMonitor.Sound (fun _ op h => ReturnMonitor.restores_iff h op)
    (fun _ op h _ => ReturnMonitor.sound_step h op)
    ReturnMonitor.sound_reset

/-- A procedure with one local. -/
def oneLocalCaller : CPUState := { CPUState.reset with cfm := 0x81 }

/-- It calls a procedure that allocates one local and calls another. -/
def twoCallsDeep : ReturnMonitor Unit :=
  run (ReturnMonitor.step resetEfiHandoffLayoutGlobals) { plugin := IA64ISAPlugin.reset.2 }
    [.execute oneLocalCaller, .brCall 0 0x4000 none, .alloc 33 0x81, .brCall 0 0x8000 none]

/-- **A return that skips a frame.** The innermost procedure returns to the first caller: `AR.BSP` was moved twice and
    is moved back once. -/
theorem return_run_not_restores :
    ¬ EveryStep (ReturnMonitor.step resetEfiHandoffLayoutGlobals) (ReturnMonitor.Restores resetEfiHandoffLayoutGlobals)
      { plugin := (IA64ISAPlugin.reset (I := Unit)).2 }
      [.execute oneLocalCaller, .brCall 0 0x4000 none, .alloc 33 0x81, .brCall 0 0x8000 none, .brRet 0x10 none] := by
  intro h
  have hret : twoCallsDeep.Restores resetEfiHandoffLayoutGlobals (.brRet 0x10 none) := h.2.2.2.2.1
  have hbsp : (twoCallsDeep.matchingCall 0x10).map (fun r => r.caller.getBSP) ≠
      some (twoCallsDeep.plugin.brRet resetEfiHandoffLayoutGlobals 0x10 none).cpu.getBSP := by decide +kernel
  obtain ⟨r, hr⟩ := Option.isSome_iff_exists.mp
    (show (twoCallsDeep.matchingCall 0x10).isSome = true by decide +kernel)
  have htarget : twoCallsDeep.returnTarget resetEfiHandoffLayoutGlobals 0x10 none = 0x10 := by decide +kernel
  obtain ⟨-, -, hback⟩ := hret r (by rw [htarget]; exact hr)
  rw [hr] at hbsp
  exact hbsp (congrArg some hback.symm)

end GuideXOS.Isa
