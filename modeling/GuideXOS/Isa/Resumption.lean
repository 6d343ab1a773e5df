import GuideXOS.Core.AddressTranslation
import GuideXOS.Isa.Decode

/-!
# `Resumption` — interruptions and `rfi`

Two things interrupt the guest between its instructions: `servicePendingInterrupt` accepts an external
request, and a data translation raises a fault. Both save IP and PSR in `CR.IIP` and `CR.IPSR` and enter a
handler; only the first pushes a snapshot of the register frame. `rfi` undoes them: it restores PSR and IP
and, whenever there is a snapshot, pops one and writes it back.

The second half watches runs. `InterruptionMonitor` keeps a record of each interruption that no `rfi` has
matched yet, and `Precise` says what the matching `rfi` owes to it.

* A Data Nested TLB fault saves nothing, by design: it moves control inside the handler that was interrupted,
  and the `rfi` of that handler is the one that matches.
-/

namespace GuideXOS.Isa
open Lib Lib.Words Lib.Runs GuideXOS.Core

def IA64_CR_ISR : Fin 128 := 17
def IA64_CR_IFA : Fin 128 := 20
def IA64_CR_ITIR : Fin 128 := 21
def IA64_CR_IHA : Fin 128 := 25

/-- **`canonicalizeKernelInstructionPointer`.** Code in the kernel's physical image reports its virtual
    address. -/
def canonicalizeKernelInstructionPointer (ip : UInt64) : UInt64 :=
  if ip ≥ kIa64KernelPhysicalBase ∧ ip - kIa64KernelPhysicalBase < kIa64KernelVirtualSpan then
    kIa64KernelVirtualBase + (ip - kIa64KernelPhysicalBase)
  else ip

/-- The access bit of `CR.ISR`. -/
def isrOfAccess : MemoryAccessType → UInt64
  | .READ => (1 : UInt64) <<< 34
  | .WRITE => (1 : UInt64) <<< 33
  | .EXECUTE => (1 : UInt64) <<< 32
  | .NON_ACCESS => (1 : UInt64) <<< 35

namespace IA64ISAPlugin
variable {I : Type _}

/-- The interruption resources a translation fault collects, unless it is a nested one. -/
def collectFault (cpu : CPUState) (fault : IA64TranslationFault) : CPUState :=
  if fault.kind = .NESTED_TLB_MISS then cpu
  else
    let faultingInstructionIP := canonicalizeKernelInstructionPointer cpu.ip &&& ~~~0xF
    let rr := cpu.getRR (regionOf fault.virtualAddress)
    let rid := (rr >>> 8) &&& 0xFFFFFF
    let pageShift := (rr >>> 2) &&& 0x3F
    (((((cpu.setCR IA64_CR_IIP faultingInstructionIP).setCR IA64_CR_IPSR cpu.psr).setCR
      IA64_CR_ISR (isrOfAccess fault.accessType)).setCR IA64_CR_IFA fault.virtualAddress).setCR
      IA64_CR_ITIR ((rid <<< 8) ||| (pageShift <<< 2))).setCR IA64_CR_IHA fault.hashAddress

variable (p : IA64ISAPlugin I) (s : CPUState) {ip : UInt64}

/-- The fault handler of `executeInstruction`. -/
def enterTranslationFault (fault : IA64TranslationFault) : IA64ISAPlugin I :=
  let cpu := (collectFault p.cpu fault).setPSR
    (p.cpu.psr &&& ~~~(((1 : UInt64) <<< 13) ||| ((1 : UInt64) <<< 14) ||| ((3 : UInt64) <<< 41) |||
      IA64_PSR_BN_MASK))
  let vectorBase := if cpu.getCR IA64_CR_IVA ≠ 0 then cpu.getCR IA64_CR_IVA else p.state.interruptVectorBase
  (p.setCpu cpu).enterBundle (normalizeKernelEntryIP (vectorBase + fault.vectorOffset))

/-- The part of `RFI` that gives the register frame back: the innermost snapshot, if there is one. -/
def popInterruptFrame : IA64ISAPlugin I :=
  match p.frames.interruptFrameStack.getLast? with
  | none => p
  | some frame => { p.setCpu (restoreFrame p.cpu frame) with
      frames := { p.frames with interruptFrameStack := p.frames.interruptFrameStack.dropLast } }

/-- The decoder's part of `RFI`. -/
def restoreStatus : IA64ISAPlugin I :=
  p.setCpu ((p.cpu.setPSR (p.cpu.getCR IA64_CR_IPSR)).setIP (p.cpu.getCR IA64_CR_IIP &&& ~~~0xF))

/-- **`RFI`.** -/
def rfi : IA64ISAPlugin I :=
  let restoredPSR := p.cpu.getCR IA64_CR_IPSR
  let p := p.restoreStatus.popInterruptFrame
  let p := p.setCpu (p.cpu.setIP (normalizeKernelEntryIP p.cpu.ip))
  capturePredicateGroupSnapshot { p with
    state := { p.state with
      currentSlot := ((restoredPSR >>> 41) &&& 0x3).toNat, bundleValid := false }
    cachedInstruction := none }

/-! ### What `rfi` does -/

theorem bundle_mask_toNat (x : UInt64) : (x &&& ~~~0xF).toNat = x.toNat / 16 * 16 := by
  have hmask : (0xF : UInt64) = lowMask 4 := by decide
  rw [hmask]
  exact and_not_lowMask_toNat (by decide) x

theorem bundle_mask_of_dvd {x : UInt64} (h : 16 ∣ x.toNat) : x &&& ~~~0xF = x :=
  UInt64.toNat_inj.mp (by rw [bundle_mask_toNat, Nat.div_mul_cancel h])

/-- An address that normalization leaves alone is a bundle address outside the kernel's virtual image. -/
theorem dvd_of_normalized (h : normalizeKernelEntryIP ip = ip) : 16 ∣ ip.toNat := by
  have hmask := bundle_mask_toNat ip
  unfold normalizeKernelEntryIP at h
  dsimp only at h
  split at h
  · next hvirtual =>
      -- the image of a virtual address is far below it
      exfalso
      obtain ⟨hge, hlt⟩ := hvirtual
      have hbase : kIa64KernelVirtualBase.toNat = 0xA000000100000000 := rfl
      have hphys : kIa64KernelPhysicalBase.toNat = 0x04000000 := rfl
      have hspan : kIa64KernelVirtualSpan.toNat = 0x01000000 := rfl
      have hge' := UInt64.le_iff_toNat_le.mp hge
      have hlt' := UInt64.lt_iff_toNat_lt.mp hlt
      rw [UInt64.toNat_sub_of_le _ _ hge] at hlt'
      have hip := congrArg UInt64.toNat h
      rw [UInt64.toNat_add, UInt64.toNat_sub_of_le _ _ hge] at hip
      omega
  · rw [← h, hmask]
    exact Nat.dvd_mul_left _ _

theorem normalize_external (h : normalizeKernelEntryIP ip = ip) : normalizeKernelEntryIP (ip &&& ~~~0xF) = ip := by
  rw [bundle_mask_of_dvd (dvd_of_normalized h), h]

/-- The round trip of a faulting address through its virtual name. -/
theorem normalize_fault (h : normalizeKernelEntryIP ip = ip) :
    normalizeKernelEntryIP ((canonicalizeKernelInstructionPointer ip &&& ~~~0xF) &&& ~~~0xF) = ip := by
  have hdvd := dvd_of_normalized h
  by_cases hphysical : ip ≥ kIa64KernelPhysicalBase ∧ ip - kIa64KernelPhysicalBase < kIa64KernelVirtualSpan
  · rw [canonicalizeKernelInstructionPointer, if_pos hphysical]
    obtain ⟨hge, hlt⟩ := hphysical
    have hbase : kIa64KernelVirtualBase.toNat = 0xA000000100000000 := rfl
    have hphys : kIa64KernelPhysicalBase.toNat = 0x04000000 := rfl
    have hspan : kIa64KernelVirtualSpan.toNat = 0x01000000 := rfl
    have hge' := UInt64.le_iff_toNat_le.mp hge
    have hlt' := UInt64.lt_iff_toNat_lt.mp hlt
    rw [UInt64.toNat_sub_of_le _ _ hge] at hlt'
    have hname : (kIa64KernelVirtualBase + (ip - kIa64KernelPhysicalBase)).toNat =
        kIa64KernelVirtualBase.toNat + (ip.toNat - kIa64KernelPhysicalBase.toNat) := by
      rw [UInt64.toNat_add, UInt64.toNat_sub_of_le _ _ hge]
      omega
    have hnameDvd : 16 ∣ (kIa64KernelVirtualBase + (ip - kIa64KernelPhysicalBase)).toNat := by
      rw [hname]
      omega
    have hback : kIa64KernelVirtualBase + (ip - kIa64KernelPhysicalBase) - kIa64KernelVirtualBase =
        ip - kIa64KernelPhysicalBase := by
      rw [UInt64.add_comm, UInt64.add_sub_cancel]
    rw [bundle_mask_of_dvd hnameDvd, bundle_mask_of_dvd hnameDvd, normalizeKernelEntryIP,
      bundle_mask_of_dvd hnameDvd, hback, if_pos ⟨UInt64.le_iff_toNat_le.mpr (by omega), hlt⟩, UInt64.add_comm, UInt64.sub_add_cancel]
  · rw [canonicalizeKernelInstructionPointer, if_neg hphysical, bundle_mask_of_dvd hdvd, bundle_mask_of_dvd hdvd, h]

theorem cfm_restoreFrame (cpu : CPUState) (frame : CallFrameSnapshot) : (restoreFrame cpu frame).cfm = frame.cfm := by
  rw [restoreFrame, CPUState.cfm_writeStacked, CPUState.cfm_setCFM]

/-- The registers of the snapshot that a frame leaves are the ones its restoration shows, without NaT. -/
theorem stackedView_restoreFrame (cpu : CPUState) (returnAddress : UInt64) (i : Fin 96) :
    (restoreFrame cpu (.capture s returnAddress)).stackedView i = ((s.stackedView i).1, false) := by
  have hcfm : (cpu.setCFM (CallFrameSnapshot.capture s returnAddress).cfm).cfm = s.cfm := rfl
  by_cases hin : s.stackedPhysical i < 144
  · refine CPUState.stackedView_writeStacked ?_ (Nat.zero_le _) ?_
    · rwa [CPUState.stackedPhysical_of_cfm hcfm]
    · simp [CallFrameSnapshot.capture, CPUState.stackedView]
  · -- a rotating region larger than the file: such a register reads as zero in every state
    have hout : ∀ f : GRFile, f.get (s.stackedPhysical i) = 0 ∧ f.getNaT (s.stackedPhysical i) = false :=
      fun f => by simp [GRFile.get, GRFile.getNaT, hin]
    have hphys : (restoreFrame cpu (.capture s returnAddress)).stackedPhysical i = s.stackedPhysical i :=
      CPUState.stackedPhysical_of_cfm (cfm_restoreFrame cpu _) i
    rw [CPUState.stackedView_eq, CPUState.stackedView_eq, hphys, (hout _).1, (hout _).2, (hout _).1]

theorem capture_congr {s t : CPUState} (hgr : t.gr = s.gr) (hcfm : t.cfm = s.cfm) (returnAddress : UInt64) :
    CallFrameSnapshot.capture t returnAddress = CallFrameSnapshot.capture s returnAddress := by
  have hview : ∀ i : Fin 96, t.getGR (stackedGR i) = s.getGR (stackedGR i) := fun i =>
    congrArg Prod.fst (CPUState.stackedView_congr hgr hcfm i)
  rw [CallFrameSnapshot.capture, CallFrameSnapshot.capture, hcfm, funext hview]

theorem capture_setPSR (v returnAddress : UInt64) :
    CallFrameSnapshot.capture (s.setPSR v) returnAddress = .capture s returnAddress :=
  capture_congr rfl rfl returnAddress

theorem capture_setCR (i : Fin 128) (v returnAddress : UInt64) :
    CallFrameSnapshot.capture (s.setCR i v) returnAddress = .capture s returnAddress :=
  capture_congr rfl rfl returnAddress

theorem ip_writeStacked (k : Nat) (vs : List UInt64) : (s.writeStacked k vs).ip = s.ip := by
  induction vs generalizing s k with
  | nil => rfl
  | cons v vs ih =>
      unfold CPUState.writeStacked
      split
      · rw [ih]
        unfold CPUState.setGR
        split <;> rfl
      · rfl

theorem popInterruptFrame_of_nil {p : IA64ISAPlugin I} (h : p.frames.interruptFrameStack = []) :
    p.popInterruptFrame = p := by
  rw [popInterruptFrame, h]
  rfl

theorem popInterruptFrame_of_concat {p : IA64ISAPlugin I} {rest : List CallFrameSnapshot}
    {frame : CallFrameSnapshot} (h : p.frames.interruptFrameStack = rest ++ [frame]) :
    p.popInterruptFrame.cpu = restoreFrame p.cpu frame ∧
      p.popInterruptFrame.frames.interruptFrameStack = rest := by
  rw [popInterruptFrame, h, List.getLast?_concat]
  exact ⟨rfl, List.dropLast_concat⟩

section Rfi
variable (p : IA64ISAPlugin I)

theorem cpu_rfi : p.rfi.cpu = p.restoreStatus.popInterruptFrame.cpu.setIP
    (normalizeKernelEntryIP p.restoreStatus.popInterruptFrame.cpu.ip) := rfl

theorem frames_rfi : p.rfi.frames = p.restoreStatus.popInterruptFrame.frames := rfl

theorem needsFetch_rfi : p.rfi.NeedsFetch := .inl rfl

theorem ip_rfi : p.rfi.cpu.ip = normalizeKernelEntryIP (p.cpu.getCR IA64_CR_IIP &&& ~~~0xF) := by
  rw [cpu_rfi]
  refine congrArg normalizeKernelEntryIP ?_
  rcases List.eq_nil_or_concat' p.restoreStatus.frames.interruptFrameStack with hnil | ⟨rest, frame, hconcat⟩
  · rw [popInterruptFrame_of_nil hnil]
    rfl
  · rw [(popInterruptFrame_of_concat hconcat).1, restoreFrame, ip_writeStacked]
    rfl

variable {p}

/-- Without a snapshot the frame stays as the handler left it. -/
theorem frame_rfi_of_nil (h : p.frames.interruptFrameStack = []) :
    p.rfi.frames.interruptFrameStack = [] ∧ p.rfi.cpu.cfm = p.cpu.cfm ∧
      ∀ i, p.rfi.cpu.stackedView i = p.cpu.stackedView i := by
  have h' : p.restoreStatus.frames.interruptFrameStack = [] := h
  rw [frames_rfi, cpu_rfi, popInterruptFrame_of_nil h']
  exact ⟨h, rfl, CPUState.stackedView_congr rfl rfl⟩

/-- With one, the innermost snapshot is written back. -/
theorem frame_rfi_of_concat {s : CPUState} {returnAddress : UInt64} {rest : List CallFrameSnapshot}
    (h : p.frames.interruptFrameStack = rest ++ [.capture s returnAddress]) :
    p.rfi.frames.interruptFrameStack = rest ∧ p.rfi.cpu.cfm = s.cfm ∧
      ∀ i, p.rfi.cpu.stackedView i = ((s.stackedView i).1, false) := by
  have h' : p.restoreStatus.frames.interruptFrameStack = rest ++ [.capture s returnAddress] := h
  obtain ⟨hcpu, hstack⟩ := popInterruptFrame_of_concat h'
  rw [frames_rfi, cpu_rfi, hcpu]
  refine ⟨hstack, ?_, fun i => ?_⟩
  · rw [CPUState.cfm_setIP, cfm_restoreFrame]
    rfl
  · rw [CPUState.stackedView_congr (CPUState.gr_setIP _ _) (CPUState.cfm_setIP _ _), stackedView_restoreFrame]

end Rfi

end IA64ISAPlugin

/-! ## Runs -/

/-- An interruption that no `rfi` has matched: the plugin at the moment of it, what the entry saved for the
    handler, and whether it was an external one. -/
structure Interruption (I : Type _) where
  before : IA64ISAPlugin I
  iip : UInt64
  ipsr : UInt64
  external : Bool

structure InterruptionMonitor (I : Type _) where
  plugin : IA64ISAPlugin I
  interruptions : List (Interruption I) := []

/-- What can happen between two instructions. `execute` is anything the guest runs except `rfi`: it may
    leave the plugin in any state, but it has no way to touch the stack of interrupted frames. `rfi` comes
    with the guest memory that the resumed instruction is fetched from. -/
inductive InterruptionOp (I M : Type _) where
  | service
  | fault (fault : IA64TranslationFault)
  | rfi (memory : M)
  | execute (after : IA64ISAPlugin I)

namespace InterruptionMonitor
variable {I M : Type _} [IMemory M]

variable (m : InterruptionMonitor I)

/-- An interruption was taken: the handler's plugin, and the record of it. -/
def interrupted (handler : IA64ISAPlugin I) (external : Bool) :
    InterruptionMonitor I where
  plugin := handler
  interruptions :=
    ⟨m.plugin, handler.cpu.getCR IA64_CR_IIP, handler.cpu.getCR IA64_CR_IPSR, external⟩ :: m.interruptions

def step : InterruptionOp I M → InterruptionMonitor I
  | .service =>
      match m.plugin.servicePendingInterrupt with
      | (false, p) => { m with plugin := p }
      | (true, p) => m.interrupted p true
  | .fault fault =>
      let p := m.plugin.enterTranslationFault fault
      if fault.kind = .NESTED_TLB_MISS then { m with plugin := p } else m.interrupted p false
  | .rfi _ => { plugin := m.plugin.rfi, interruptions := m.interruptions.tail }
  | .execute after => { m with plugin := { after with frames := { after.frames with
      interruptFrameStack := m.plugin.frames.interruptFrameStack } } }

/-! ### What `rfi` owes to an interruption -/

section Resumption
variable (g : EfiHandoffGlobals) (decodeBundleAt : List UInt8 → UInt64 → Option (Bundle I)) (p : IA64ISAPlugin I)
  {fault : IA64TranslationFault}

/-- The handler restored what the entry had saved. -/
def Restored (r : Interruption I) (p : IA64ISAPlugin I) : Prop :=
  p.cpu.getCR IA64_CR_IIP = r.iip ∧ p.cpu.getCR IA64_CR_IPSR = r.ipsr

/-- **Precise resumption** of `r` by the plugin `p`, over guest memory `memory`: the interrupted instruction
    comes next, in its bundle and slot; the slots that took effect before the interruption and those that
    take effect from here on are all slots of the bundle, once each; the register frame is the one that was
    interrupted. -/
structure Precise (memory : M) (r : Interruption I) (p : IA64ISAPlugin I) : Prop where
  position : p.nextPosition g decodeBundleAt memory = r.before.nextPosition g decodeBundleAt memory
  once : ∀ q, q = (p.decode g decodeBundleAt memory).2 → q.state.bundleValid = true →
    List.range r.before.dueSlot ++
        q.straightLine (q.state.currentBundle.instructions.length - q.state.currentSlot) =
      List.range q.state.currentBundle.instructions.length
  cfm : p.cpu.cfm = r.before.cpu.cfm
  stacked : ∀ i, p.cpu.stackedView i = r.before.cpu.stackedView i

/-- **The property of one step**: an `rfi` at the end of a handler that restored `CR.IIP` and `CR.IPSR`
    resumes the interruption it matches precisely. -/
def Resumes (m : InterruptionMonitor I) : InterruptionOp I M → Prop
  | .rfi memory => ∀ r ∈ m.interruptions.head?, Restored r m.plugin →
      Precise g decodeBundleAt memory r m.plugin.rfi
  | _ => True

/-- An interruption here can be resumed: slot `0` comes next, at a bundle address outside the kernel's
    virtual image. -/
structure Interruptible (p : IA64ISAPlugin I) : Prop where
  slot : p.dueSlot = 0
  ip : normalizeKernelEntryIP p.cpu.ip = p.cpu.ip

/-- **The condition on one step.** -/
def Safe (m : InterruptionMonitor I) : InterruptionOp I M → Prop
  | .service => m.plugin.servicePendingInterrupt.1 = true →
      Interruptible m.plugin ∧ ∀ i, (m.plugin.cpu.stackedView i).2 = false
  | .fault fault => fault.kind ≠ .NESTED_TLB_MISS →
      Interruptible m.plugin ∧ m.plugin.frames.interruptFrameStack = []
  | .rfi memory => ∀ r ∈ m.interruptions.head?,
      (¬ r.before.NeedsFetch → fetchTarget g memory r.before.cpu.ip = r.before.cpu.ip) ∧
      (r.external = false → m.plugin.cpu.cfm = r.before.cpu.cfm ∧
        ∀ i, m.plugin.cpu.stackedView i = r.before.cpu.stackedView i)
  | .execute _ => True

/-! ### The invariant -/

/-- What a record keeps of the step that made it. -/
structure Recorded (r : Interruption I) : Prop where
  interruptible : Interruptible r.before
  returns : normalizeKernelEntryIP (r.iip &&& ~~~0xF) = r.before.cpu.ip
  clean : r.external = true → ∀ i, (r.before.cpu.stackedView i).2 = false

/-- **The invariant**: the stack of interrupted frames holds the snapshots of the external interruptions, and
    these are all inside the faults. -/
structure Sound (m : InterruptionMonitor I) : Prop where
  recorded : ∀ r ∈ m.interruptions, Recorded r
  stacked : ∃ externals faults, m.interruptions = externals ++ faults ∧
    (∀ r ∈ externals, r.external = true) ∧ (∀ r ∈ faults, r.external = false) ∧
    m.plugin.frames.interruptFrameStack =
      (externals.map fun r => CallFrameSnapshot.capture r.before.cpu r.before.cpu.ip).reverse

theorem servicePendingInterrupt_true {p p' : IA64ISAPlugin I} (h : p.servicePendingInterrupt = (true, p')) :
    ∃ vector, p' = p.enterExternalInterrupt vector := by
  unfold IA64ISAPlugin.servicePendingInterrupt at h
  split at h
  · cases h
  · split at h
    · cases h
    · split at h
      · cases h
      · next vector _ => exact ⟨vector, (congrArg Prod.snd h).symm⟩

theorem servicePendingInterrupt_false {p p' : IA64ISAPlugin I} (h : p.servicePendingInterrupt = (false, p')) :
    p' = p := by
  unfold IA64ISAPlugin.servicePendingInterrupt at h
  split at h
  · exact (congrArg Prod.snd h).symm
  · split at h
    · exact (congrArg Prod.snd h).symm
    · split at h
      · exact (congrArg Prod.snd h).symm
      · cases h

theorem enterExternalInterrupt_iip (vector : UInt8) :
    (p.enterExternalInterrupt vector).cpu.getCR IA64_CR_IIP = p.cpu.ip := by
  show ((p.cpu.setCR IA64_CR_IIP p.cpu.ip).setCR IA64_CR_IPSR p.cpu.psr).getCR IA64_CR_IIP = p.cpu.ip
  rw [CPUState.getCR_setCR_ne (by decide), CPUState.getCR_setCR_self]

theorem enterExternalInterrupt_stack (vector : UInt8) :
    (p.enterExternalInterrupt vector).frames.interruptFrameStack =
      p.frames.interruptFrameStack ++ [.capture p.cpu p.cpu.ip] := by
  simp only [IA64ISAPlugin.enterExternalInterrupt]
  rw [CPUState.getCR_setPSR, CPUState.getCR_setCR_ne (by decide), CPUState.getCR_setCR_self,
    IA64ISAPlugin.capture_setPSR, IA64ISAPlugin.capture_setCR, IA64ISAPlugin.capture_setCR]

theorem enterTranslationFault_iip (h : fault.kind ≠ .NESTED_TLB_MISS) :
    (p.enterTranslationFault fault).cpu.getCR IA64_CR_IIP =
      canonicalizeKernelInstructionPointer p.cpu.ip &&& ~~~0xF := by
  simp only [IA64ISAPlugin.enterTranslationFault, IA64ISAPlugin.cpu_enterBundle, IA64ISAPlugin.cpu_setCpu,
    CPUState.getCR_setIP, CPUState.getCR_setPSR, IA64ISAPlugin.collectFault, if_neg h]
  rw [CPUState.getCR_setCR_ne (by decide), CPUState.getCR_setCR_ne (by decide),
    CPUState.getCR_setCR_ne (by decide), CPUState.getCR_setCR_ne (by decide),
    CPUState.getCR_setCR_ne (by decide), CPUState.getCR_setCR_self]

theorem enterTranslationFault_stack (fault : IA64TranslationFault) :
    (p.enterTranslationFault fault).frames = p.frames := rfl

variable {g decodeBundleAt} {m : InterruptionMonitor I} {op : InterruptionOp I M}

theorem sound_interrupted_external (h : Sound m) (vector : UInt8) (hi : Interruptible m.plugin)
    (hclean : ∀ i, (m.plugin.cpu.stackedView i).2 = false) :
    Sound (m.interrupted (m.plugin.enterExternalInterrupt vector) true) := by
  obtain ⟨externals, faults, hsplit, hext, hfault, hstack⟩ := h.stacked
  refine ⟨List.forall_mem_cons.mpr ⟨⟨hi, ?_, fun _ => hclean⟩, h.recorded⟩,
    _ :: externals, faults, congrArg (_ :: ·) hsplit, List.forall_mem_cons.mpr ⟨rfl, hext⟩, hfault, ?_⟩
  · show normalizeKernelEntryIP
      ((m.plugin.enterExternalInterrupt vector).cpu.getCR IA64_CR_IIP &&& ~~~0xF) = m.plugin.cpu.ip
    rw [enterExternalInterrupt_iip, IA64ISAPlugin.normalize_external hi.ip]
  · rw [List.map_cons, List.reverse_cons, ← hstack]
    exact enterExternalInterrupt_stack m.plugin vector

theorem sound_interrupted_fault (h : Sound m) (hkind : fault.kind ≠ .NESTED_TLB_MISS) (hi : Interruptible m.plugin)
    (hnil : m.plugin.frames.interruptFrameStack = []) :
    Sound (m.interrupted (m.plugin.enterTranslationFault fault) false) := by
  obtain ⟨externals, faults, hsplit, hext, hfault, hstack⟩ := h.stacked
  -- no frame is stacked, so no external interruption is in progress
  have hnone : externals = [] := by
    rw [hnil] at hstack
    exact List.map_eq_nil_iff.mp (List.reverse_eq_nil_iff.mp hstack.symm)
  subst hnone
  refine ⟨List.forall_mem_cons.mpr ⟨⟨hi, ?_, fun hfalse => nomatch hfalse⟩, h.recorded⟩,
    [], _ :: faults, congrArg (_ :: ·) hsplit, List.forall_mem_nil _, List.forall_mem_cons.mpr ⟨rfl, hfault⟩, ?_⟩
  · show normalizeKernelEntryIP
      ((m.plugin.enterTranslationFault fault).cpu.getCR IA64_CR_IIP &&& ~~~0xF) = m.plugin.cpu.ip
    rw [enterTranslationFault_iip m.plugin hkind, IA64ISAPlugin.normalize_fault hi.ip]
  · show (m.plugin.enterTranslationFault fault).frames.interruptFrameStack = []
    rw [enterTranslationFault_stack, hnil]

/-- Which frame an `rfi` finds. -/
theorem rfi_cases (h : Sound m) {r : Interruption I} {rest : List (Interruption I)}
    (hcons : m.interruptions = r :: rest) :
    (r.external = true ∧ ∃ frames, m.plugin.frames.interruptFrameStack =
        frames ++ [.capture r.before.cpu r.before.cpu.ip]) ∨
      (r.external = false ∧ m.plugin.frames.interruptFrameStack = []) := by
  obtain ⟨externals, faults, hsplit, hext, hfault, hstack⟩ := h.stacked
  cases externals with
  | nil =>
      have hmem : r ∈ faults := by
        rw [← List.nil_append faults, ← hsplit, hcons]
        exact List.mem_cons_self
      exact .inr ⟨hfault r hmem, hstack⟩
  | cons e externals =>
      rw [hcons, List.cons_append] at hsplit
      obtain ⟨rfl, _⟩ := List.cons.inj hsplit
      rw [List.map_cons, List.reverse_cons] at hstack
      exact .inl ⟨hext r List.mem_cons_self, _, hstack⟩

theorem sound_rfi (h : Sound m) : Sound ⟨m.plugin.rfi, m.interruptions.tail⟩ := by
  obtain ⟨externals, faults, hsplit, hext, hfault, hstack⟩ := h.stacked
  refine ⟨fun r hr => h.recorded r (List.mem_of_mem_tail hr), ?_⟩
  cases externals with
  | nil =>
      -- no snapshot to pop: a fault is matched, or nothing at all
      have htail : ∀ r ∈ faults.tail, r.external = false := fun r hr => hfault r (List.mem_of_mem_tail hr)
      exact ⟨[], faults.tail, congrArg List.tail hsplit, hext, htail,
        (IA64ISAPlugin.frame_rfi_of_nil hstack).1⟩
  | cons e externals =>
      rw [List.map_cons, List.reverse_cons] at hstack
      exact ⟨externals, faults, congrArg List.tail hsplit, (List.forall_mem_cons.mp hext).2, hfault,
        (IA64ISAPlugin.frame_rfi_of_concat hstack).1⟩

/-- **Step lemma.** -/
theorem sound_step (h : Sound m) (hsafe : Safe g m op) : Sound (m.step op) := by
  cases op with
  | service =>
      rcases hserve : m.plugin.servicePendingInterrupt with ⟨accepted, p⟩
      cases accepted with
      | false =>
          have hsame := servicePendingInterrupt_false hserve
          simp only [step, hserve, hsame]
          exact h
      | true =>
          obtain ⟨vector, rfl⟩ := servicePendingInterrupt_true hserve
          obtain ⟨hi, hclean⟩ := hsafe (congrArg Prod.fst hserve)
          simp only [step, hserve]
          exact sound_interrupted_external h vector hi hclean
  | fault fault =>
      by_cases hkind : fault.kind = .NESTED_TLB_MISS
      · simp only [step, if_pos hkind]
        obtain ⟨hrecorded, hstacked⟩ := h
        exact ⟨hrecorded, hstacked⟩
      · obtain ⟨hi, hnil⟩ := hsafe hkind
        simp only [step, if_neg hkind]
        exact sound_interrupted_fault h hkind hi hnil
  | rfi memory => exact sound_rfi h
  | execute after => exact ⟨h.recorded, h.stacked⟩

/-- **Precise resumption** of an interruption whose record and frame are intact. -/
theorem resumes_rfi {memory : M} (h : Sound m) (hsafe : Safe g m (.rfi memory)) :
    Resumes g decodeBundleAt m (.rfi memory) := by
  intro r hr hrestored
  obtain ⟨rest, hcons⟩ := List.head?_eq_some_iff.mp hr
  obtain ⟨hfetch, hframe⟩ := hsafe r hr
  obtain ⟨⟨hslot, _⟩, hreturns, hclean⟩ := h.recorded r (hcons ▸ List.mem_cons_self)
  have hip : m.plugin.rfi.cpu.ip = r.before.cpu.ip := by
    rw [IA64ISAPlugin.ip_rfi, hrestored.1, hreturns]
  have hnext := IA64ISAPlugin.nextPosition_of_needsFetch g decodeBundleAt memory
    (IA64ISAPlugin.needsFetch_rfi m.plugin)
  rw [hip] at hnext
  have hframes : m.plugin.rfi.cpu.cfm = r.before.cpu.cfm ∧
      ∀ i, m.plugin.rfi.cpu.stackedView i = r.before.cpu.stackedView i := by
    rcases rfi_cases h hcons with ⟨hext, frames, hstack⟩ | ⟨hfault, hnil⟩
    · obtain ⟨_, hcfm, hview⟩ := IA64ISAPlugin.frame_rfi_of_concat hstack
      exact ⟨hcfm, fun i => (hview i).trans (Prod.ext rfl (hclean hext i).symm)⟩
    · obtain ⟨_, hcfm, hview⟩ := IA64ISAPlugin.frame_rfi_of_nil hnil
      obtain ⟨hcfm', hview'⟩ := hframe hfault
      exact ⟨hcfm.trans hcfm', fun i => (hview i).trans (hview' i)⟩
  refine ⟨?_, ?_, hframes.1, hframes.2⟩
  · by_cases hneeds : r.before.NeedsFetch
    · rw [hnext, IA64ISAPlugin.nextPosition_of_needsFetch g decodeBundleAt memory hneeds]
    · rw [IA64ISAPlugin.dueSlot, if_neg hneeds] at hslot
      rw [hnext, IA64ISAPlugin.nextPosition_of_not_needsFetch g decodeBundleAt memory hneeds, hfetch hneeds, hslot]
  · intro q hq hvalid
    have hzero : q.state.currentSlot = 0 := by
      rw [hq]
      exact congrArg Prod.snd hnext
    rw [hslot, IA64ISAPlugin.straightLine_eq hvalid (by omega), hzero, Nat.sub_zero, List.range_zero,
      List.nil_append, List.range_eq_range']

theorem resumes_of_safe (h : Sound m) (hsafe : Safe g m op) : Resumes g decodeBundleAt m op := by
  cases op with
  | rfi memory => exact resumes_rfi h hsafe
  | service => trivial
  | fault fault => trivial
  | execute after => trivial

end Resumption

end InterruptionMonitor

/-! ## The run -/

open InterruptionMonitor in
/-- **Every interruption is resumed precisely**, in each run whose steps are all safe: it interrupts slot `0`
    of a bundle outside the kernel's virtual image, an external one finds no NaT bit in the stacked
    registers, no fault is raised inside an external handler, a fault handler gives the register frame back
    by itself, and the bundle to return to does not look like a function descriptor. -/
theorem interruption_run_precise {I M : Type _} [IMemory M] (g : EfiHandoffGlobals)
    (decodeBundleAt : List UInt8 → UInt64 → Option (Bundle I)) (p : IA64ISAPlugin I)
    (hp : p.frames.interruptFrameStack = []) (ops : List (InterruptionOp I M))
    (hsafe : EveryStep step (Safe g) { plugin := p } ops) :
    EveryStep step (Resumes g decodeBundleAt) { plugin := p } ops :=
  everyStep_of_invariant Sound (fun _ _ h hs => sound_step h hs) (fun _ _ h hs => resumes_of_safe h hs)
    ⟨List.forall_mem_nil _, [], [], rfl, List.forall_mem_nil _, List.forall_mem_nil _, hp⟩ hsafe

/-- A plugin about to execute slot `slot` of a bundle of three at address `0`, with a request pending. -/
def pluginAtSlot (slot : Nat) : IA64ISAPlugin Unit :=
  { IA64ISAPlugin.reset.2 with
    state := { (IA64ISAPlugin.reset (I := Unit)).2.state with
      cpu := { CPUState.reset with psr := IA64_PSR_I }
      currentBundle := ⟨[(), (), ()], []⟩
      bundleValid := true
      currentSlot := slot
      pendingInterrupts := [0x30] } }

def threeSlots (_ : List UInt8) (_ : UInt64) : Option (Bundle Unit) := some ⟨[(), (), ()], []⟩

/-- Interrupted at slot `0`, the bundle is resumed. -/
theorem interruption_run_precise_slot_zero :
    EveryStep InterruptionMonitor.step (InterruptionMonitor.Resumes resetEfiHandoffLayoutGlobals threeSlots)
      { plugin := (IA64ISAPlugin.reset (I := Unit)).2 }
      [.execute (pluginAtSlot 0), .service, .rfi (FlatMemory.mk (List.replicate 16 0))] := by
  refine interruption_run_precise _ _ _ rfl _ ⟨trivial, fun _ => ⟨⟨?_, ?_⟩, ?_⟩, fun r hr => ⟨fun _ => ?_, ?_⟩, trivial⟩
  · decide +kernel
  · decide +kernel
  · decide +kernel
  · obtain rfl := Option.some.inj hr
    decide +kernel
  · obtain rfl := Option.some.inj hr
    exact fun hfault => nomatch hfault

/-- **Interrupted at slot `1`**: `IPSR` does not record the slot, and the fetch after `rfi` would ignore it, so
    slot `0` is executed a second time. -/
theorem interruption_run_not_precise :
    ¬ EveryStep InterruptionMonitor.step (InterruptionMonitor.Resumes resetEfiHandoffLayoutGlobals threeSlots)
      { plugin := (IA64ISAPlugin.reset (I := Unit)).2 }
      [.execute (pluginAtSlot 1), .service, .rfi (FlatMemory.mk (List.replicate 16 0))] := by
  intro h
  have hprecise := h.2.2.1 _ rfl ⟨rfl, rfl⟩
  have hslot := congrArg Prod.snd hprecise.position
  revert hslot
  decide +kernel

end GuideXOS.Isa
