import Mathlib.Data.List.Perm.Basic
import GuideXOS.Lib.Runs
import GuideXOS.Lib.Selection
import GuideXOS.Isa.Frames
import GuideXOS.Isa.Handoff

/-!
# `Interrupts` — the local interrupt controller

Requests wait in `pendingInterrupts`. `servicePendingInterrupt` enters the handler of the greatest eligible
request and latches its vector as being in service, without consuming the request; reading `CR.IVR` inside
the handler does that, and writing `CR.EOI` ends the service. A read of `CR.IVR` outside a service picks,
consumes and latches a request by itself. The interval timer raises a request when `AR.ITC` passes `CR.ITM`.

The second half watches runs of these operations: `Monitored` counts, for the service in progress, the
copies of its vector that left the queue.
-/

namespace GuideXOS.Isa
open Lib Lib.Words Lib.Runs Lib.Selection GuideXOS.Core

/-! ## Control registers and entry points -/

def IA64_CR_ITM : Fin 128 := 1
def IA64_CR_IVA : Fin 128 := 2
def IA64_CR_IPSR : Fin 128 := 16
def IA64_CR_IIP : Fin 128 := 19
def IA64_CR_IVR : Fin 128 := 65
def IA64_CR_TPR : Fin 128 := 66
def IA64_CR_EOI : Fin 128 := 67
def IA64_CR_IRR0 : Fin 128 := 68
def IA64_CR_IRR3 : Fin 128 := 71
def IA64_CR_ITV : Fin 128 := 72

def IA64_PSR_I : UInt64 := (1 : UInt64) <<< 14
def IA64_ITV_MASK : UInt64 := (1 : UInt64) <<< 16

/-- The interval time counter, `AR.ITC`. -/
def IA64_AR_ITC : Fin 128 := 44

def isIA64IrrSelector (selector : Nat) : Bool := IA64_CR_IRR0.val ≤ selector && selector ≤ IA64_CR_IRR3.val

def ia64IrrBankForSelector (selector : Nat) : Nat := selector - IA64_CR_IRR0.val

def IA64_EXTERNAL_INTERRUPT_VECTOR : UInt8 := 0x0C

/-- **`ia64IvtEntryOffset`.** Vectors 0–19 have entries of `0x400` bytes, the rest entries of `0x100`. -/
def ia64IvtEntryOffset (vector : UInt8) : UInt64 :=
  if vector < 20 then vector.toUInt64 * 0x400
  else 20 * 0x400 + (vector.toUInt64 - 20) * 0x100

def kIa64KernelVirtualBase : UInt64 := 0xA000000100000000
def kIa64KernelPhysicalBase : UInt64 := 0x04000000
def kIa64KernelVirtualSpan : UInt64 := 0x01000000

/-- **`normalizeKernelEntryIP`.** The kernel image runs at its physical load address, so an entry point in
    its virtual range is moved there. -/
def normalizeKernelEntryIP (target : UInt64) : UInt64 :=
  let bundleTarget := target &&& ~~~0xF
  if bundleTarget ≥ kIa64KernelVirtualBase ∧
      bundleTarget - kIa64KernelVirtualBase < kIa64KernelVirtualSpan then
    kIa64KernelPhysicalBase + (bundleTarget - kIa64KernelVirtualBase)
  else bundleTarget

/-! ## The controller -/

namespace IA64ISAPlugin
variable {I : Type _}

variable (p : IA64ISAPlugin I)

/-- A plugin with another pending queue. -/
def setPending (pending : List UInt8) : IA64ISAPlugin I :=
  { p with state := { p.state with pendingInterrupts := pending } }

def queueInterrupt (vector : UInt8) : IA64ISAPlugin I :=
  if vector ≤ IA64_SPURIOUS_INT_VECTOR then p
  else p.setPending (p.state.pendingInterrupts ++ [vector])

def hasPendingInterrupt : Bool := !p.state.pendingInterrupts.isEmpty

def setInterruptsEnabled (enabled : Bool) : IA64ISAPlugin I :=
  p.setCpu (p.cpu.setPSR (if enabled then p.cpu.psr ||| IA64_PSR_I else p.cpu.psr &&& ~~~IA64_PSR_I))

def areInterruptsEnabled : Bool := p.cpu.psr &&& IA64_PSR_I != 0

def setInterruptVectorBase (baseAddress : UInt64) : IA64ISAPlugin I :=
  { p with state := { p.state with interruptVectorBase := baseAddress } }

/-- The priority class of a vector, bits 7:4, exceeds the one `CR.TPR` masks. -/
def isInterruptEligible (vector : UInt8) : Bool :=
  if vector ≤ IA64_SPURIOUS_INT_VECTOR then false
  else (vector >>> 4).toUInt64 > (p.cpu.getCR IA64_CR_TPR >>> 4) &&& 0x0F

/-- **`findHighestEligibleInterrupt`.** The queue position it finds, with the request there. -/
def findHighestEligibleInterrupt : Option (Nat × UInt8) :=
  scanGreatest p.isInterruptEligible 0 none p.state.pendingInterrupts

/-- **`updateIntervalTimer`.** One request for each time `AR.ITC` reaches an armed `CR.ITM`. -/
def updateIntervalTimer : IA64ISAPlugin I :=
  let itv := p.cpu.getCR IA64_CR_ITV
  let itm := p.cpu.getCR IA64_CR_ITM
  let itc := p.cpu.getAR IA64_AR_ITC
  if !p.interrupts.intervalTimerConfigured || p.interrupts.timerCompareLatched ||
      itv &&& IA64_ITV_MASK != 0 || (itc - itm).toInt64 < 0 then p
  else
    let vector := (itv &&& 0xFF).toUInt8
    if vector ≤ IA64_SPURIOUS_INT_VECTOR then p
    else { p.setPending (p.state.pendingInterrupts ++ [vector]) with
      interrupts := { p.interrupts with timerCompareLatched := true } }

def advanceITC (p : IA64ISAPlugin I) (ticks : UInt64) : IA64ISAPlugin I :=
  (p.setCpu (p.cpu.advanceITC ticks)).updateIntervalTimer

/-- The part of `readControlRegister` that answers a read of `CR.IVR`. -/
def readIVR : UInt8 × IA64ISAPlugin I :=
  if p.interrupts.interruptInService then
    let vector := p.interrupts.inServiceVector
    (vector, p.setPending (p.state.pendingInterrupts.erase vector))
  else
    match p.findHighestEligibleInterrupt with
    | some (pendingIndex, vector) =>
        (vector, { p.setPending (p.state.pendingInterrupts.eraseIdx pendingIndex) with
          interrupts := { p.interrupts with interruptInService := true, inServiceVector := vector } })
    | none => (IA64_SPURIOUS_INT_VECTOR, p)

/-- The pending vectors of one bank of 64, as the bits of `CR.IRR`. -/
def readIRR (bank : Nat) : UInt64 :=
  p.state.pendingInterrupts.foldl
    (fun irr vector =>
      if vector.toNat >>> 6 = bank then irr ||| ((1 : UInt64) <<< (vector &&& 63).toUInt64) else irr) 0

/-- What a control-register access can throw. -/
inductive ControlRegisterFault where
  | outOfRange
  | readOnlyIrr
  deriving DecidableEq

def readControlRegister (selector : Nat) : Except ControlRegisterFault (UInt64 × IA64ISAPlugin I) :=
  if isIA64IrrSelector selector then .ok (p.readIRR (ia64IrrBankForSelector selector), p)
  else if selector ≠ IA64_CR_IVR.val then
    if h : selector < 128 then .ok (p.cpu.getCR ⟨selector, h⟩, p) else .error .outOfRange
  else
    let (vector, p') := p.readIVR
    .ok (vector.toUInt64, p')

def writeControlRegister (selector : Nat) (value : UInt64) : Except ControlRegisterFault (IA64ISAPlugin I) :=
  if h : selector < 128 then
    let written := p.setCpu (p.cpu.setCR ⟨selector, h⟩ value)
    if isIA64IrrSelector selector then .error .readOnlyIrr
    else if selector = IA64_CR_EOI.val then
      if p.interrupts.interruptInService then
        .ok { written with interrupts := { p.interrupts with
          interruptInService := false, inServiceVector := IA64_SPURIOUS_INT_VECTOR } }
      else .ok written
    else if selector = IA64_CR_ITV.val then .ok written.updateIntervalTimer
    else if selector = IA64_CR_ITM.val then
      .ok (updateIntervalTimer { written with interrupts := { p.interrupts with
        timerCompareLatched := false, intervalTimerConfigured := true } })
    else .ok written
  else .error .outOfRange

/-- The address of the external interrupt handler. -/
def externalInterruptEntry : UInt64 :=
  let iva := p.cpu.getCR IA64_CR_IVA
  normalizeKernelEntryIP
    ((if iva ≠ 0 then iva else p.state.interruptVectorBase) + ia64IvtEntryOffset IA64_EXTERNAL_INTERRUPT_VECTOR)

/-- Acceptance of a request: the handler is entered and the interrupted frame is saved for `rfi`. The
    request itself stays pending. -/
def enterExternalInterrupt (vector : UInt8) : IA64ISAPlugin I :=
  let cpu := ((p.cpu.setCR IA64_CR_IIP p.cpu.ip).setCR IA64_CR_IPSR p.cpu.psr).setPSR
    (p.cpu.psr &&& ~~~(IA64_PSR_I ||| IA64_PSR_BN_MASK))
  let frame := CallFrameSnapshot.capture cpu (cpu.getCR IA64_CR_IIP)
  { p with
    state := { p.state with
      cpu := cpu.setIP p.externalInterruptEntry, bundleValid := false, currentSlot := 0 }
    interrupts := { p.interrupts with interruptInService := true, inServiceVector := vector }
    frames := { p.frames with interruptFrameStack := p.frames.interruptFrameStack ++ [frame] } }

def servicePendingInterrupt : Bool × IA64ISAPlugin I :=
  if p.interrupts.interruptInService || !p.hasPendingInterrupt then (false, p)
  else if !p.areInterruptsEnabled then (false, p)
  else
    match p.findHighestEligibleInterrupt with
    | none => (false, p)
    | some (_, vector) => (true, p.enterExternalInterrupt vector)

/-! ### What the operations do to the queue and the service -/

/-- `v` is pending and eligible, and no pending eligible request exceeds it. -/
def HighestEligible (v : UInt8) : Prop :=
  v ∈ p.state.pendingInterrupts ∧ p.isInterruptEligible v = true ∧
    ∀ w ∈ p.state.pendingInterrupts, p.isInterruptEligible w = true → w ≤ v

/-- The service in progress, if any, is the same one. -/
def SameService (p' : IA64ISAPlugin I) : Prop :=
  p'.interrupts.interruptInService = p.interrupts.interruptInService ∧
    p'.interrupts.inServiceVector = p.interrupts.inServiceVector

/-- A service of `v` is in progress. -/
def Serving (v : UInt8) : Prop :=
  p.interrupts.interruptInService = true ∧ p.interrupts.inServiceVector = v

theorem SameService.refl : SameService p p := ⟨rfl, rfl⟩

theorem findHighestEligibleInterrupt_some {p : IA64ISAPlugin I} {i : Nat} {v : UInt8}
    (h : p.findHighestEligibleInterrupt = some (i, v)) :
    p.state.pendingInterrupts[i]? = some v ∧ p.HighestEligible v := by
  obtain ⟨hi, hv, hmax⟩ := scanGreatest_some h
  exact ⟨hi, List.mem_of_getElem? hi, hv, hmax⟩

/-- `CR.IVR` reads as the vector in service after the read, and as the spurious one if there is none. -/
theorem readIVR_fst :
    p.readIVR.1 = if p.readIVR.2.interrupts.interruptInService then p.readIVR.2.interrupts.inServiceVector
      else IA64_SPURIOUS_INT_VECTOR := by
  unfold readIVR
  cases hbusy : p.interrupts.interruptInService with
  | true => simp [setPending, hbusy]
  | false =>
      rw [if_neg (by simp)]
      cases p.findHighestEligibleInterrupt with
      | none => simp [hbusy]
      | some found => rfl

/-- **The timer.** It leaves the queue alone or appends the vector of `CR.ITV`; it never touches a
    service. -/
theorem updateIntervalTimer_cases :
    SameService p p.updateIntervalTimer ∧
      (p.updateIntervalTimer.state.pendingInterrupts = p.state.pendingInterrupts ∨
        p.updateIntervalTimer.state.pendingInterrupts =
          p.state.pendingInterrupts ++ [(p.cpu.getCR IA64_CR_ITV &&& 0xFF).toUInt8]) := by
  unfold updateIntervalTimer
  dsimp only
  split
  · exact ⟨.refl p, .inl rfl⟩
  · split
    · exact ⟨.refl p, .inl rfl⟩
    · exact ⟨⟨rfl, rfl⟩, .inr rfl⟩

end IA64ISAPlugin

/-! ## Runs of the controller -/

/-- The operations on the controller. `execute` is anything else the guest runs: it may leave the processor
    in any state. -/
inductive InterruptOp where
  | queueInterrupt (vector : UInt8)
  | advanceITC (ticks : UInt64)
  | readControlRegister (selector : Nat)
  | writeControlRegister (selector : Nat) (value : UInt64)
  | setInterruptsEnabled (enabled : Bool)
  | setInterruptVectorBase (baseAddress : UInt64)
  | servicePendingInterrupt
  | execute (cpu : CPUState)

namespace InterruptOp
variable {I : Type _}

/-- One operation; an access that throws changes nothing. -/
def apply (p : IA64ISAPlugin I) : InterruptOp → IA64ISAPlugin I
  | queueInterrupt vector => p.queueInterrupt vector
  | advanceITC ticks => p.advanceITC ticks
  | readControlRegister selector =>
      match p.readControlRegister selector with
      | .ok (_, p') => p'
      | .error _ => p
  | writeControlRegister selector value =>
      match p.writeControlRegister selector value with
      | .ok p' => p'
      | .error _ => p
  | setInterruptsEnabled enabled => p.setInterruptsEnabled enabled
  | setInterruptVectorBase baseAddress => p.setInterruptVectorBase baseAddress
  | servicePendingInterrupt => p.servicePendingInterrupt.2
  | execute cpu => p.setCpu cpu

def readsIVR : InterruptOp → Bool
  | readControlRegister selector => selector == IA64_CR_IVR.val
  | _ => false

/-- `v` is a request the operation may raise: the one queued, or the interval timer's. -/
def Raises (p : IA64ISAPlugin I) (v : UInt8) : InterruptOp → Prop
  | queueInterrupt vector => v = vector
  | advanceITC _ => v = (p.cpu.getCR IA64_CR_ITV &&& 0xFF).toUInt8
  | writeControlRegister selector value =>
      (selector = IA64_CR_ITM.val ∧ v = (p.cpu.getCR IA64_CR_ITV &&& 0xFF).toUInt8) ∨
        (selector = IA64_CR_ITV.val ∧ v = (value &&& 0xFF).toUInt8)
  | _ => False

/-- **What one operation can do** to the queue and to the service in progress. -/
inductive Effect (p p' : IA64ISAPlugin I) (op : InterruptOp) : Prop where
  | idle (hread : op.readsIVR = true → p.interrupts.interruptInService = false ∧
        ∀ w ∈ p.state.pendingInterrupts, p.isInterruptEligible w = false)
      (hq : p'.state.pendingInterrupts = p.state.pendingInterrupts) (hs : p.SameService p')
  | raise (v : UInt8) (hr : op.Raises p v) (hread : op.readsIVR = false)
      (hq : p'.state.pendingInterrupts = p.state.pendingInterrupts ++ [v]) (hs : p.SameService p')
  | accept (v : UInt8) (hread : op.readsIVR = false) (hfree : p.interrupts.interruptInService = false)
      (hv : p.HighestEligible v) (hq : p'.state.pendingInterrupts = p.state.pendingInterrupts)
      (hs : p'.Serving v)
  | take (v : UInt8) (hread : op.readsIVR = true) (hfree : p.interrupts.interruptInService = false)
      (hv : p.HighestEligible v) (hq : p.state.pendingInterrupts.Perm (v :: p'.state.pendingInterrupts))
      (hs : p'.Serving v)
  | reread (hread : op.readsIVR = true) (hbusy : p.interrupts.interruptInService = true)
      (hq : p'.state.pendingInterrupts = p.state.pendingInterrupts.erase p.interrupts.inServiceVector)
      (hs : p.SameService p')
  | eoi (hread : op.readsIVR = false) (hq : p'.state.pendingInterrupts = p.state.pendingInterrupts)
      (hs : p'.interrupts.interruptInService = false)

/-! ### One lemma for each operation, then for all -/

open IA64ISAPlugin

/-- Timer updates, seen from a plugin with the same queue and the same service. -/
theorem effect_updateIntervalTimer {p q : IA64ISAPlugin I} {op : InterruptOp} {v : UInt8}
    (hq : q.state.pendingInterrupts = p.state.pendingInterrupts) (hs : p.SameService q)
    (hv : (q.cpu.getCR IA64_CR_ITV &&& 0xFF).toUInt8 = v) (hr : op.Raises p v) (hread : op.readsIVR = false) :
    Effect p q.updateIntervalTimer op := by
  obtain ⟨ht, hsame | happ⟩ := q.updateIntervalTimer_cases
  · exact .idle (by simp [hread]) (hsame.trans hq) ⟨ht.1.trans hs.1, ht.2.trans hs.2⟩
  · exact .raise v hr hread (by rw [happ, hq, hv]) ⟨ht.1.trans hs.1, ht.2.trans hs.2⟩

variable (p : IA64ISAPlugin I)

theorem effect_readIVR : Effect p p.readIVR.2 (.readControlRegister IA64_CR_IVR.val) := by
  unfold readIVR
  cases hbusy : p.interrupts.interruptInService with
  | true =>
      -- the source erases a pending copy on every read of the service, not only on the first
      exact .reread rfl hbusy rfl ⟨rfl, rfl⟩
  | false =>
      rw [if_neg (by simp)]
      cases hfind : p.findHighestEligibleInterrupt with
      | none => exact .idle (fun _ => ⟨hbusy, scanGreatest_none hfind⟩) rfl (.refl p)
      | some found =>
          obtain ⟨i, v⟩ := found
          obtain ⟨hi, hv⟩ := findHighestEligibleInterrupt_some hfind
          obtain ⟨hlt, hget⟩ := List.getElem?_eq_some_iff.mp hi
          refine .take v rfl hbusy hv ?_ ⟨rfl, rfl⟩
          rw [← hget]
          exact (List.getElem_cons_eraseIdx_perm hlt).symm

theorem effect_readControlRegister (selector : Nat) :
    Effect p ((readControlRegister selector).apply p) (.readControlRegister selector) := by
  by_cases hivr : selector = IA64_CR_IVR.val
  · subst hivr
    exact effect_readIVR p
  · have hread : (readControlRegister selector).readsIVR = false := by simpa [readsIVR] using hivr
    have hsame : (readControlRegister selector).apply p = p := by
      simp only [apply, IA64ISAPlugin.readControlRegister]
      by_cases hirr : isIA64IrrSelector selector
      · rw [if_pos hirr]
      · rw [if_neg hirr, if_pos hivr]
        split
        · next hok => split at hok <;> cases hok; rfl
        · rfl
    rw [hsame]
    exact .idle (by simp [hread]) rfl (.refl p)

theorem effect_writeControlRegister (selector : Nat) (value : UInt64) :
    Effect p ((writeControlRegister selector value).apply p) (.writeControlRegister selector value) := by
  have hidle : Effect p p (.writeControlRegister selector value) := .idle (by simp [readsIVR]) rfl (.refl p)
  simp only [apply, IA64ISAPlugin.writeControlRegister]
  by_cases h : selector < 128
  · rw [dif_pos h]
    by_cases hirr : isIA64IrrSelector selector
    · rw [if_pos hirr]
      exact hidle
    rw [if_neg hirr]
    by_cases heoi : selector = IA64_CR_EOI.val
    · rw [if_pos heoi]
      cases hbusy : p.interrupts.interruptInService with
      | true => exact .eoi rfl rfl rfl
      | false => exact .eoi rfl rfl hbusy
    rw [if_neg heoi]
    by_cases hitv : selector = IA64_CR_ITV.val
    · rw [if_pos hitv]
      subst hitv
      exact effect_updateIntervalTimer rfl ⟨rfl, rfl⟩
        (congrArg (fun itv => (itv &&& 0xFF).toUInt8) (p.cpu.getCR_setCR_self IA64_CR_ITV value))
        (.inr ⟨rfl, rfl⟩) rfl
    rw [if_neg hitv]
    by_cases hitm : selector = IA64_CR_ITM.val
    · rw [if_pos hitm]
      subst hitm
      exact effect_updateIntervalTimer rfl ⟨rfl, rfl⟩
        (congrArg (fun itv => (itv &&& 0xFF).toUInt8)
          (CPUState.getCR_setCR_ne (i := IA64_CR_ITM) (by decide) p.cpu value))
        (.inl ⟨rfl, rfl⟩) rfl
    · rw [if_neg hitm]
      exact .idle (by simp [readsIVR]) rfl ⟨rfl, rfl⟩
  · rw [dif_neg h]
    exact hidle

theorem effect_servicePendingInterrupt : Effect p p.servicePendingInterrupt.2 .servicePendingInterrupt := by
  have hidle : Effect p p .servicePendingInterrupt := .idle (by simp [readsIVR]) rfl (.refl p)
  unfold IA64ISAPlugin.servicePendingInterrupt
  cases hbusy : p.interrupts.interruptInService with
  | true => exact hidle
  | false =>
      split
      · exact hidle
      split
      · exact hidle
      cases hfind : p.findHighestEligibleInterrupt with
      | none => exact hidle
      | some found => exact .accept found.2 rfl hbusy (findHighestEligibleInterrupt_some hfind).2 rfl ⟨rfl, rfl⟩

theorem eq_of_readsIVR {op : InterruptOp} (h : op.readsIVR = true) :
    op = .readControlRegister IA64_CR_IVR.val := by
  cases op with
  | readControlRegister selector => rw [eq_of_beq h]
  | queueInterrupt => cases h
  | advanceITC => cases h
  | writeControlRegister => cases h
  | setInterruptsEnabled => cases h
  | setInterruptVectorBase => cases h
  | servicePendingInterrupt => cases h
  | execute => cases h

/-- **Every operation has one of the effects.** -/
theorem effect_apply (op : InterruptOp) : Effect p (op.apply p) op := by
  cases op with
  | queueInterrupt vector =>
      simp only [apply, IA64ISAPlugin.queueInterrupt]
      split
      · exact .idle (by simp [readsIVR]) rfl (.refl p)
      · exact .raise vector rfl rfl rfl ⟨rfl, rfl⟩
  | advanceITC ticks => exact effect_updateIntervalTimer rfl ⟨rfl, rfl⟩ rfl rfl rfl
  | readControlRegister selector => exact effect_readControlRegister p selector
  | writeControlRegister selector value => exact effect_writeControlRegister p selector value
  | setInterruptsEnabled enabled => exact .idle (by simp [readsIVR]) rfl ⟨rfl, rfl⟩
  | setInterruptVectorBase baseAddress => exact .idle (by simp [readsIVR]) rfl ⟨rfl, rfl⟩
  | servicePendingInterrupt => exact effect_servicePendingInterrupt p
  | execute cpu => exact .idle (by simp [readsIVR]) rfl ⟨rfl, rfl⟩

end InterruptOp

/-! ### The service in progress, watched -/

/-- A plugin with the history of the service in progress: whether `CR.IVR` was read in it, and how many
    copies of its vector have left the queue. -/
structure Monitored (I : Type _) where
  plugin : IA64ISAPlugin I
  ivrRead : Bool := false
  removed : Nat := 0

namespace Monitored
variable {I : Type _} (m : Monitored I)

/-- What a step adds to the history, when a service of `v` is in progress after it. -/
def record (op : InterruptOp) (p' : IA64ISAPlugin I) (v : UInt8) : Monitored I where
  plugin := p'
  ivrRead := m.ivrRead || op.readsIVR
  removed := m.removed + (m.plugin.state.pendingInterrupts.count v - p'.state.pendingInterrupts.count v)

/-- One operation; the history starts anew with each service. -/
def step (op : InterruptOp) : Monitored I :=
  let p' := op.apply m.plugin
  if !p'.interrupts.interruptInService then { plugin := p' }
  else if m.plugin.interrupts.interruptInService then m.record op p' p'.interrupts.inServiceVector
  else record { plugin := m.plugin } op p' p'.interrupts.inServiceVector

/-- A service has removed one pending copy of its vector if `CR.IVR` was read in it, else none. -/
def Accounted : Prop :=
  m.plugin.interrupts.interruptInService = true → m.removed = if m.ivrRead then 1 else 0

/-- **What every step owes.** -/
structure Exact (m : Monitored I) (op : InterruptOp) : Prop where
  /-- The service in progress is accounted for, so the one that ends next is. -/
  accounted : (m.step op).Accounted
  /-- The queue keeps its requests, gains the one raised, or gives up one copy of the vector in service to
      a read of `CR.IVR`. -/
  queue : (op.apply m.plugin).state.pendingInterrupts = m.plugin.state.pendingInterrupts ∨
    (∃ v, op.Raises m.plugin v ∧
      (op.apply m.plugin).state.pendingInterrupts = m.plugin.state.pendingInterrupts ++ [v]) ∨
    (op.readsIVR = true ∧ ∃ v, (op.apply m.plugin).Serving v ∧
      m.plugin.state.pendingInterrupts.Perm (v :: (op.apply m.plugin).state.pendingInterrupts))
  /-- One service at a time: it keeps its vector until it ends. -/
  single : m.plugin.interrupts.interruptInService = true →
    (op.apply m.plugin).interrupts.interruptInService = true →
    (op.apply m.plugin).interrupts.inServiceVector = m.plugin.interrupts.inServiceVector
  /-- A service that starts is of the highest eligible request. -/
  chosen : m.plugin.interrupts.interruptInService = false →
    (op.apply m.plugin).interrupts.interruptInService = true →
    m.plugin.HighestEligible (op.apply m.plugin).interrupts.inServiceVector
  /-- `CR.IVR` reads as the vector in service after the read; where there is none, no request was
      eligible. -/
  returned : op.readsIVR = true →
    m.plugin.readControlRegister IA64_CR_IVR.val = .ok
      ((if (op.apply m.plugin).interrupts.interruptInService then
        (op.apply m.plugin).interrupts.inServiceVector else IA64_SPURIOUS_INT_VECTOR).toUInt64,
        op.apply m.plugin) ∧
    ((op.apply m.plugin).interrupts.interruptInService = false →
      ∀ w ∈ m.plugin.state.pendingInterrupts, m.plugin.isInterruptEligible w = false)

/-- **When a step pays.** It does not read `CR.IVR` again, in a service where it was read, while another
    copy of the vector in service is pending. -/
def NoSecondTake (op : InterruptOp) : Prop :=
  op.readsIVR = true → m.plugin.interrupts.interruptInService = true → m.ivrRead = true →
    m.plugin.interrupts.inServiceVector ∉ m.plugin.state.pendingInterrupts

/-- The service in progress is accounted for, and until `CR.IVR` is read its request is still pending. -/
def Sound : Prop :=
  m.Accounted ∧ (m.plugin.interrupts.interruptInService = true → m.ivrRead = false →
    m.plugin.interrupts.inServiceVector ∈ m.plugin.state.pendingInterrupts)

/-! ### One step -/

section Step
variable {m : Monitored I} {op : InterruptOp}

theorem step_busy (h : m.plugin.interrupts.interruptInService = true)
    (h' : (op.apply m.plugin).interrupts.interruptInService = true) :
    m.step op = m.record op (op.apply m.plugin) (op.apply m.plugin).interrupts.inServiceVector := by
  simp only [step, h', h, Bool.not_true, Bool.false_eq_true, ↓reduceIte]

theorem step_start (h : m.plugin.interrupts.interruptInService = false)
    (h' : (op.apply m.plugin).interrupts.interruptInService = true) :
    m.step op = record { plugin := m.plugin } op (op.apply m.plugin)
      (op.apply m.plugin).interrupts.inServiceVector := by
  simp only [step, h', h, Bool.not_true, Bool.false_eq_true, ↓reduceIte]

theorem step_free (h' : (op.apply m.plugin).interrupts.interruptInService = false) :
    m.step op = { plugin := op.apply m.plugin } := by
  simp only [step, h', Bool.not_false, ↓reduceIte]

/-- An idle step, or one that only raises a request, keeps the service sound. -/
theorem sound_step_of_prefix (h : m.Sound) (hs : m.plugin.SameService (op.apply m.plugin))
    (hread : m.plugin.interrupts.interruptInService = true → op.readsIVR = false)
    (arrivals : List UInt8)
    (hq : (op.apply m.plugin).state.pendingInterrupts = m.plugin.state.pendingInterrupts ++ arrivals) :
    (m.step op).Sound := by
  cases hbusy : m.plugin.interrupts.interruptInService with
  | false =>
      have hfree := hs.1.trans hbusy
      rw [step_free hfree]
      exact ⟨fun hin => absurd hin (by rw [hfree]; simp), fun hin => absurd hin (by rw [hfree]; simp)⟩
  | true =>
      rw [step_busy hbusy (hs.1.trans hbusy)]
      refine ⟨fun _ => ?_, fun _ hunread => ?_⟩
      · simp only [record, hread hbusy, Bool.or_false, hq, List.count_append]
        rw [h.1 hbusy]
        omega
      · simp only [record, hread hbusy, Bool.or_false] at hunread
        rw [record, hs.2, hq]
        exact List.mem_append_left _ (h.2 hbusy hunread)

/-- Copies of a vector that leave with one of them. -/
theorem count_sub_count_of_perm {v : UInt8} {pending pending' : List UInt8}
    (h : pending.Perm (v :: pending')) : pending.count v - pending'.count v = 1 := by
  rw [h.count_eq, List.count_cons_self]
  omega

theorem sound_step_of_reread (h : m.Sound) (hp : m.NoSecondTake op) (hread : op.readsIVR = true)
    (hbusy : m.plugin.interrupts.interruptInService = true)
    (hq : (op.apply m.plugin).state.pendingInterrupts =
      m.plugin.state.pendingInterrupts.erase m.plugin.interrupts.inServiceVector)
    (hs : m.plugin.SameService (op.apply m.plugin)) : (m.step op).Sound := by
  rw [step_busy hbusy (hs.1.trans hbusy)]
  refine ⟨fun _ => ?_, fun _ hunread => ?_⟩
  · have hacc := h.1 hbusy
    simp only [record, hread, Bool.or_true, if_true, hs.2, hq]
    -- the first read finds the accepted copy still pending; a later one must find no copy
    cases hr : m.ivrRead with
    | false =>
        rw [hr, if_neg (by simp)] at hacc
        rw [hacc, count_sub_count_of_perm (List.perm_cons_erase (h.2 hbusy hr))]
    | true =>
        rw [hr, if_pos rfl] at hacc
        rw [hacc, List.erase_of_not_mem (hp hread hbusy hr)]
        omega
  · simp [record, hread] at hunread

/-- **A step that takes no second copy keeps the service sound.** -/
theorem sound_step (h : m.Sound) (hp : m.NoSecondTake op) : (m.step op).Sound := by
  cases op.effect_apply m.plugin with
  | idle hread hq hs =>
      refine sound_step_of_prefix h hs (fun hbusy => ?_) [] (by rw [hq, List.append_nil])
      cases hr : op.readsIVR with
      | false => rfl
      | true => rw [(hread hr).1] at hbusy; cases hbusy
  | raise v _ hread hq hs => exact sound_step_of_prefix h hs (fun _ => hread) [v] hq
  | accept v hread hfree hv hq hs =>
      rw [step_start hfree hs.1]
      refine ⟨fun _ => ?_, fun _ _ => ?_⟩
      · simp [record, hread, hq]
      · rw [record, hs.2, hq]
        exact hv.1
  | take v hread hfree hv hq hs =>
      rw [step_start hfree hs.1]
      refine ⟨fun _ => ?_, fun _ hunread => ?_⟩
      · simp only [record, hread, Bool.or_true, if_true, hs.2, count_sub_count_of_perm hq]
      · simp [record, hread] at hunread
  | reread hread hbusy hq hs => exact sound_step_of_reread h hp hread hbusy hq hs
  | eoi _ _ hs =>
      rw [step_free hs]
      exact ⟨fun hin => absurd hin (by rw [hs]; simp), fun hin => absurd hin (by rw [hs]; simp)⟩

/-- A service still accounted for after a step took no second copy in it. -/
theorem noSecondTake_of_accounted (h : m.Sound) (hacc : (m.step op).Accounted) : m.NoSecondTake op := by
  intro hread hbusy hr hmem
  cases op.effect_apply m.plugin with
  | idle hidle => rw [(hidle hread).1] at hbusy; cases hbusy
  | raise _ _ hno => rw [hno] at hread; cases hread
  | accept _ hno => rw [hno] at hread; cases hread
  | take _ _ hfree => rw [hfree] at hbusy; cases hbusy
  | eoi hno => rw [hno] at hread; cases hread
  | reread _ _ hq hs =>
      -- a second copy left the queue, so the count would be two
      have hstep := hacc
      rw [step_busy hbusy (hs.1.trans hbusy)] at hstep
      have hone := hstep (hs.1.trans hbusy)
      simp only [record, hread, Bool.or_true, if_true, hs.2, hq,
        count_sub_count_of_perm (List.perm_cons_erase hmem)] at hone
      rw [h.1 hbusy, hr, if_pos rfl] at hone
      omega

theorem queue_step (m : Monitored I) (op : InterruptOp) :
    (op.apply m.plugin).state.pendingInterrupts = m.plugin.state.pendingInterrupts ∨
    (∃ v, op.Raises m.plugin v ∧
      (op.apply m.plugin).state.pendingInterrupts = m.plugin.state.pendingInterrupts ++ [v]) ∨
    (op.readsIVR = true ∧ ∃ v, (op.apply m.plugin).Serving v ∧
      m.plugin.state.pendingInterrupts.Perm (v :: (op.apply m.plugin).state.pendingInterrupts)) := by
  cases op.effect_apply m.plugin with
  | idle _ hq _ => exact .inl hq
  | raise v hr _ hq _ => exact .inr (.inl ⟨v, hr, hq⟩)
  | accept _ _ _ _ hq _ => exact .inl hq
  | take v hread _ _ hq hs => exact .inr (.inr ⟨hread, v, hs, hq⟩)
  | eoi _ hq _ => exact .inl hq
  | reread hread hbusy hq hs =>
      by_cases hmem : m.plugin.interrupts.inServiceVector ∈ m.plugin.state.pendingInterrupts
      · refine .inr (.inr ⟨hread, _, ⟨hs.1.trans hbusy, hs.2⟩, ?_⟩)
        rw [hq]
        exact List.perm_cons_erase hmem
      · exact .inl (hq.trans (List.erase_of_not_mem hmem))

theorem single_step (hbusy : m.plugin.interrupts.interruptInService = true)
    (h' : (op.apply m.plugin).interrupts.interruptInService = true) :
    (op.apply m.plugin).interrupts.inServiceVector = m.plugin.interrupts.inServiceVector := by
  cases op.effect_apply m.plugin with
  | idle _ _ hs => exact hs.2
  | raise _ _ _ _ hs => exact hs.2
  | accept _ _ hfree => rw [hfree] at hbusy; cases hbusy
  | take _ _ hfree => rw [hfree] at hbusy; cases hbusy
  | reread _ _ _ hs => exact hs.2
  | eoi _ _ hs => rw [hs] at h'; cases h'

theorem chosen_step (hfree : m.plugin.interrupts.interruptInService = false)
    (h' : (op.apply m.plugin).interrupts.interruptInService = true) :
    m.plugin.HighestEligible (op.apply m.plugin).interrupts.inServiceVector := by
  cases op.effect_apply m.plugin with
  | idle _ _ hs => rw [hs.1, hfree] at h'; cases h'
  | raise _ _ _ _ hs => rw [hs.1, hfree] at h'; cases h'
  | accept _ _ _ hv _ hs => exact hs.2 ▸ hv
  | take _ _ _ hv _ hs => exact hs.2 ▸ hv
  | reread _ hbusy => rw [hfree] at hbusy; cases hbusy
  | eoi _ _ hs => rw [hs] at h'; cases h'

theorem returned_step (hread : op.readsIVR = true) :
    m.plugin.readControlRegister IA64_CR_IVR.val = .ok
      ((if (op.apply m.plugin).interrupts.interruptInService then
        (op.apply m.plugin).interrupts.inServiceVector else IA64_SPURIOUS_INT_VECTOR).toUInt64,
        op.apply m.plugin) ∧
    ((op.apply m.plugin).interrupts.interruptInService = false →
      ∀ w ∈ m.plugin.state.pendingInterrupts, m.plugin.isInterruptEligible w = false) := by
  rw [InterruptOp.eq_of_readsIVR hread]
  refine ⟨?_, fun hfree => ?_⟩
  · rw [show InterruptOp.apply m.plugin (.readControlRegister IA64_CR_IVR.val) = m.plugin.readIVR.2 from rfl,
      ← m.plugin.readIVR_fst]
    rfl
  · cases InterruptOp.effect_readIVR m.plugin with
    | idle hidle => exact (hidle rfl).2
    | raise _ _ hno => cases hno
    | accept _ hno => cases hno
    | take _ _ _ _ _ hs =>
        have hin := hs.1
        rw [show m.plugin.readIVR.2.interrupts.interruptInService = false from hfree] at hin
        cases hin
    | reread _ hbusy _ hs =>
        have hin := hs.1.trans hbusy
        rw [show m.plugin.readIVR.2.interrupts.interruptInService = false from hfree] at hin
        cases hin
    | eoi hno => cases hno

/-- **One step.** -/
theorem exact_iff (h : m.Sound) : m.Exact op ↔ m.NoSecondTake op :=
  ⟨fun hq => noSecondTake_of_accounted h hq.accounted, fun hp =>
    { accounted := (sound_step h hp).1
      queue := queue_step m op
      single := single_step
      chosen := chosen_step
      returned := returned_step }⟩

end Step

end Monitored

open Monitored in
/-- **Runs from reset.** Every step of a run is exact exactly when no step of it takes a second copy of the
    vector in service. -/
theorem interrupt_run_exact_iff {I : Type _} (ops : List InterruptOp) :
    EveryStep step Exact { plugin := (IA64ISAPlugin.reset (I := I)).2 } ops ↔
      EveryStep step NoSecondTake { plugin := (IA64ISAPlugin.reset (I := I)).2 } ops :=
  everyStep_congr Sound (fun _ _ h => exact_iff h) (fun _ _ h hp => sound_step h hp)
    ⟨fun hin => absurd hin Bool.false_ne_true, fun hin => absurd hin Bool.false_ne_true⟩

/-- **Two requests of one vector, and `CR.IVR` read twice.** The second read consumes the second request
    although only one service is in progress. -/
theorem interrupt_run_not_exact :
    ¬ EveryStep Monitored.step Monitored.Exact { plugin := (IA64ISAPlugin.reset (I := Unit)).2 }
      [.queueInterrupt 0x30, .queueInterrupt 0x30, .readControlRegister 65, .readControlRegister 65] := by
  intro h
  have hacc := h.2.2.2.1.accounted
  revert hacc
  unfold Monitored.Accounted
  decide +kernel

end GuideXOS.Isa
