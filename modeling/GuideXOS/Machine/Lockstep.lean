import GuideXOS.Machine.CpuLockstep
import GuideXOS.Machine.VirtualMachine

/-!
# `Lockstep` — machines that go on alike

`Matches` relates two machines that agree on everything a step can see. A step keeps them related (`Matches.step`), so
related machines stay related over every run (`Matches.calls`, `Matches.run`). What is left out of the relation is what
no step reads: the boot state machine, the histories, the last panic, the scheduler but for its cursor.

With `rewound` the second machine may be paused where the first one is running: it takes the same steps, one at a time.
-/

namespace GuideXOS.Machine
open Lib Lib.Runs GuideXOS.Core GuideXOS.Isa GuideXOS.Vm

variable {I : Type} {engine : Engine I} {stale lost rewound : Prop}

/-- Two processors with the same place in their machines. -/
def CPUContext.Matches (stale lost : Prop) (a b : CPUContext I) : Prop :=
  ∃ cpu, a.cpu.Matches stale lost cpu ∧ b = { a with cpu }

theorem isSome_of_rel {α β : Type _} {R : α → β → Prop} {x : Option α} {y : Option β} (h : Option.Rel R x y) :
    x.isSome = y.isSome := by
  cases h <;> rfl

/-- A processor without a plugin keeps its state itself, and a restored one takes it from the record. -/
theorem CPU.state_restored {a b : CPU I} (ha : a.isaPlugin = none) (hb : b.isaPlugin.isSome = false) :
    a.state = if b.isaPlugin.isSome then b.state else a.getState := by
  rw [hb, CPU.getState, ha]
  rfl

namespace CPUContext.Matches
variable {a b : CPUContext I}

theorem interrupt (h : a.Matches stale lost b) (vector : UInt8) :
    (CPUContext.interrupt vector a).Matches stale lost (CPUContext.interrupt vector b) := by
  obtain ⟨cpu, hcpu, rfl⟩ := h
  exact ⟨cpu.queueInterrupt vector, hcpu.queueInterrupt vector, rfl⟩

theorem hasLid (h : a.Matches stale lost b) (lid : UInt16) : CPUContext.hasLid lid a = CPUContext.hasLid lid b := by
  obtain ⟨cpu, hcpu, rfl⟩ := h
  unfold CPUContext.hasLid
  rcases hcpu.plugins with ⟨ha, hb⟩ | ⟨p, q, ha, hb, hpq⟩
  · rw [ha, hb]
  · rw [ha, hb]
    show ((p.cpu.getCR _).toUInt16 == lid) = ((q.cpu.getCR _).toUInt16 == lid)
    rw [hpq.cpu]

end CPUContext.Matches

/-! ## Machines -/

namespace VirtualMachine

variable (vm : VirtualMachine I) {r : CPUContext I → CPUContext I → Prop}

/-- A machine that has stopped at a breakpoint, which its next step is to pass. -/
def atInstructionBreakpoint : Bool :=
  vm.state == .PAUSED && vm.lastBreakReason == "instruction breakpoint"

/-- The run states of two machines that go on alike. -/
structure SameRun (rewound : Prop) (s t : VirtualMachine I) : Prop where
  state : s.state = t.state ∨ rewound ∧ s.state = .RUNNING ∧ t.state = .PAUSED
  atInstructionBreakpoint : s.atInstructionBreakpoint = t.atInstructionBreakpoint

/-- Two machines that go on alike. -/
structure Matches (stale lost rewound : Prop) (s t : VirtualMachine I) : Prop where
  world : s.world = t.world
  cpus : List.Forall₂ (CPUContext.Matches stale lost) s.cpus t.cpus
  lastCPUIndex : s.cpus.length ≤ 1 ∨ s.scheduler.lastCPUIndex = t.scheduler.lastCPUIndex
  pendingVectors : s.interruptController.pendingVectors = t.interruptController.pendingVectors
  sameRun : SameRun rewound s t
  activeCPUIndex : s.activeCPUIndex = t.activeCPUIndex
  debuggerAttached : s.debuggerAttached = t.debuggerAttached
  instructionBreakpoints : s.debuggerAttached = true → s.instructionBreakpoints = t.instructionBreakpoints
  cyclesExecuted : s.cyclesExecuted = t.cyclesExecuted

theorem SameRun.of_state {s t : VirtualMachine I} (state : VMState) (hs : s.state = state) (ht : t.state = state)
    (hne : state ≠ .PAUSED) : SameRun rewound s t := by
  have hnot : ∀ {vm : VirtualMachine I}, vm.state = state → vm.atInstructionBreakpoint = false := by
    intro vm hvm
    simp [VirtualMachine.atInstructionBreakpoint, hvm, hne]
  exact ⟨.inl (hs.trans ht.symm), (hnot hs).trans (hnot ht).symm⟩

theorem forall₂_modify {f g : CPUContext I → CPUContext I} (hfg : ∀ a b, r a b → r (f a) (g b))
    {as bs : List (CPUContext I)} (h : List.Forall₂ r as bs) (i : Nat) :
    List.Forall₂ r (as.modify i f) (bs.modify i g) := by
  induction h generalizing i with
  | nil => simp
  | cons hab h ih =>
      cases i with
      | zero => exact .cons (hfg _ _ hab) h
      | succ i => exact .cons hab (ih i)

theorem map_eq_of_forall₂ {β : Type} {f : CPUContext I → β} (hf : ∀ a b, r a b → f a = f b)
    {as bs : List (CPUContext I)} (h : List.Forall₂ r as bs) : as.map f = bs.map f := by
  induction h with
  | nil => rfl
  | cons hab _ ih => rw [List.map_cons, List.map_cons, hf _ _ hab, ih]

theorem findIdx?_hasLid {as bs : List (CPUContext I)} (h : List.Forall₂ (CPUContext.Matches stale lost) as bs)
    (lid : UInt16) :
    as.findIdx? (CPUContext.hasLid lid) = bs.findIdx? (CPUContext.hasLid lid) := by
  induction h with
  | nil => rfl
  | cons hab h ih => rw [List.findIdx?_cons, List.findIdx?_cons, hab.hasLid lid, ih]

/-- Only the history is written. -/
theorem captureSnapshotIfBoundary_eq :
    ∃ history, vm.captureSnapshotIfBoundary = { vm with snapshotHistory := history } := by
  unfold captureSnapshotIfBoundary
  split
  · exact ⟨_, rfl⟩
  · exact ⟨_, rfl⟩

theorem world_captureSnapshotIfBoundary : vm.captureSnapshotIfBoundary.world = vm.world := by
  obtain ⟨history, hhistory⟩ := captureSnapshotIfBoundary_eq vm
  rw [hhistory]

theorem world_wake : vm.wake.world = vm.world := by
  unfold wake
  split <;> rfl

theorem cpus_wake : vm.wake.cpus = vm.cpus := by
  unfold wake
  split <;> rfl

/-- A selection depends on the cursor only where there is a choice. -/
theorem selectNextCPU_congr {s t : SimpleCPUScheduler} {cpus : CPUList}
    (h : cpus.length ≤ 1 ∨ s.lastCPUIndex = t.lastCPUIndex) : s.selectNextCPU cpus = t.selectNextCPU cpus := by
  match cpus, h with
  | [], _ => rfl
  | [_], _ => rfl
  | a :: b :: rest, .inl hle => exact absurd hle (by simp)
  | a :: b :: rest, .inr hcursor =>
      unfold SimpleCPUScheduler.selectNextCPU SimpleCPUScheduler.startIndex
      rw [hcursor]

/-- A call that executes at most one instruction, or one of the two ends of `run`. -/
inductive StepCall
  | step
  | stepCPU (cpuIndex : Int)
  /-- `run` sets the machine running. -/
  | enterRun
  /-- `run` stops it at the cycle limit. -/
  | stopAtLimit

def call (engine : Engine I) (vm : VirtualMachine I) (op : StepCall) : VirtualMachine I :=
  match op with
  | .step => (vm.step engine).2
  | .stepCPU cpuIndex => (vm.stepCPU engine cpuIndex).2
  | .enterRun => if vm.state = .CREATED ∨ vm.state = .ERROR then vm else { vm with state := .RUNNING }
  | .stopAtLimit => if vm.state = .CREATED ∨ vm.state = .ERROR then vm else { vm with state := .STOPPED }

/-- Every processor reads its bundle. -/
def ReadsBundles (engine : Engine I) (vm : VirtualMachine I) : Prop :=
  ∀ ctx ∈ vm.cpus, ctx.cpu.ReadsItsBundle engine vm.world

namespace Matches
variable {s t : VirtualMachine I}

section
variable (h : Matches stale lost rewound s t)
include h

theorem modifyCPU (i : Nat) {f g : CPUContext I → CPUContext I}
    (hfg : ∀ a b : CPUContext I, a.Matches stale lost b → (f a).Matches stale lost (g b)) :
    Matches stale lost rewound (s.modifyCPU i f) (t.modifyCPU i g) :=
  { h with
    cpus := forall₂_modify hfg h.cpus i
    lastCPUIndex := h.lastCPUIndex.imp (fun hle => (List.length_modify ..).trans_le hle) id
    sameRun := ⟨h.sameRun.state, h.sameRun.atInstructionBreakpoint⟩ }

theorem failWith (what : String) : Matches stale lost rewound (s.failWith what) (t.failWith what) :=
  { h with sameRun := .of_state .ERROR rfl rfl (by decide) }

/-- A machine that has to be woken is in the same state as the other one. -/
theorem wake : Matches stale lost rewound s.wake t.wake := by
  unfold VirtualMachine.wake
  rcases h.sameRun.state with hstate | ⟨hrewound, hs, ht⟩
  · rw [← hstate]
    by_cases hawake : s.state ≠ .RUNNING ∧ s.state ≠ .PAUSED
    · rw [if_pos hawake, if_pos hawake]
      exact { h with sameRun := .of_state .RUNNING rfl rfl (by decide) }
    · rw [if_neg hawake, if_neg hawake]
      exact h
  · rw [if_neg (by simp [hs]), if_neg (by simp [ht])]
    exact h

theorem targetCPU : s.targetCPU = t.targetCPU := by
  unfold VirtualMachine.targetCPU
  rw [h.activeCPUIndex]

theorem deliver (vector : UInt8) : Matches stale lost rewound (s.deliver vector) (t.deliver vector) := by
  unfold VirtualMachine.deliver
  rw [h.targetCPU]
  exact h.modifyCPU _ fun a b hab => hab.interrupt vector

theorem applyEffect (effect : BusEffect) :
    Matches stale lost rewound (s.applyEffect effect) (t.applyEffect effect) := by
  cases effect with
  | sendInterrupt lid vector =>
      unfold VirtualMachine.applyEffect
      simp only [findIdx?_hasLid h.cpus lid]
      cases t.cpus.findIdx? (CPUContext.hasLid lid) with
      | none => exact h
      | some i => exact h.modifyCPU i fun a b hab => hab.interrupt vector
  | memoryBreakpoint => exact { h with sameRun := ⟨.inl rfl, rfl⟩ }

theorem raise (vector : UInt8) : Matches stale lost rewound (s.raise vector) (t.raise vector) := by
  unfold VirtualMachine.raise BasicInterruptController.raiseInterrupt
  simp only [h.pendingVectors]
  have hempty : Matches stale lost rewound
      { s with interruptController := { s.interruptController with pendingVectors := [] } }
      { t with interruptController := { t.interruptController with pendingVectors := [] } } :=
    { h with pendingVectors := rfl, sameRun := ⟨h.sameRun.state, h.sameRun.atInstructionBreakpoint⟩ }
  exact List.foldl_rel hempty fun vector _ s t h => h.deliver vector

theorem tickTimer : Matches stale lost rewound s.tickTimer t.tickTimer := by
  unfold VirtualMachine.tickTimer
  simp only [← h.world]
  have htimer : ∀ timer, Matches stale lost rewound { s with world := { s.world with timer } }
      { t with world := { s.world with timer } } := fun timer =>
    { h with world := rfl, sameRun := ⟨h.sameRun.state, h.sameRun.atInstructionBreakpoint⟩ }
  exact List.foldl_rel (htimer _) fun vector _ s t h => h.raise vector

theorem countStep (i : Nat) : Matches stale lost rewound (s.countStep i) (t.countStep i) := by
  have hcount : ∀ a b : CPUContext I, a.Matches stale lost b →
      CPUContext.Matches stale lost
        { a with cyclesExecuted := a.cyclesExecuted + 1, instructionsExecuted := a.instructionsExecuted + 1 }
        { b with cyclesExecuted := b.cyclesExecuted + 1, instructionsExecuted := b.instructionsExecuted + 1 } := by
    rintro a b ⟨cpu, hcpu, rfl⟩
    exact ⟨cpu, hcpu, rfl⟩
  exact { h.modifyCPU i hcount with
    lastCPUIndex := .inr rfl
    sameRun := ⟨h.sameRun.state, h.sameRun.atInstructionBreakpoint⟩
    cyclesExecuted := congrArg (· + 1) h.cyclesExecuted }

/-! ### Steps -/

/-- The last lines of a step. -/
theorem finishStep :
    (¬ rewound → s.finishStep.1 = t.finishStep.1) ∧ Matches stale lost rewound s.finishStep.2 t.finishStep.2 := by
  unfold VirtualMachine.finishStep
  rcases h.sameRun.state with hstate | ⟨hrewound, hs, ht⟩
  · rw [← hstate]
    by_cases hpaused : s.state = .PAUSED
    · rw [if_pos hpaused, if_pos hpaused]
      exact ⟨fun _ => rfl, h⟩
    · rw [if_neg hpaused, if_neg hpaused]
      exact ⟨fun _ => rfl, { h with sameRun := .of_state .RUNNING rfl rfl (by decide) }⟩
  · rw [if_neg (by simp [hs]), if_pos ht]
    have hnot : t.atInstructionBreakpoint = false := by
      rw [← h.sameRun.atInstructionBreakpoint]
      simp [VirtualMachine.atInstructionBreakpoint, hs]
    exact ⟨fun hnr => absurd hrewound hnr, { h with sameRun := ⟨.inr ⟨hrewound, rfl, ht⟩, hnot.symm⟩ }⟩

theorem execute (i : Nat) {a b : CPUContext I} (hab : a.Matches stale lost b)
    (hanew : stale → engine.FetchesAnew) (hreads : lost → a.cpu.ReadsItsBundle engine s.world) :
    (¬ rewound → (s.execute engine i a).1 = (t.execute engine i b).1) ∧
      Matches stale lost rewound (s.execute engine i a).2 (t.execute engine i b).2 := by
  obtain ⟨cpu, hcpu, rfl⟩ := hab
  obtain ⟨hstepped, hcpu', hworld⟩ := hcpu.step hanew hreads
  unfold VirtualMachine.execute
  rw [← h.world]
  dsimp only
  generalize a.cpu.step engine s.world = r at *
  generalize cpu.step engine s.world = r' at *
  obtain ⟨stepped, cpuS, world, effects⟩ := r
  obtain ⟨stepped', cpuT, world', effects'⟩ := r'
  cases hstepped
  cases hworld
  dsimp only
  have hbus : Matches stale lost rewound
      (effects.foldl VirtualMachine.applyEffect ({ s with world }.modifyCPU i fun ctx => { ctx with cpu := cpuS }))
      (effects.foldl VirtualMachine.applyEffect ({ t with world }.modifyCPU i fun ctx => { ctx with cpu := cpuT })) := by
    have hworld : Matches stale lost rewound { s with world } { t with world } :=
      { h with world := rfl, sameRun := ⟨h.sameRun.state, h.sameRun.atInstructionBreakpoint⟩ }
    have hset : ∀ a b : CPUContext I, a.Matches stale lost b →
        CPUContext.Matches stale lost { a with cpu := cpuS } { b with cpu := cpuT } := by
      rintro a b ⟨cpu, -, rfl⟩
      exact ⟨cpuT, hcpu', rfl⟩
    exact List.foldl_rel (hworld.modifyCPU i hset) fun effect _ s t h => h.applyEffect effect
  generalize effects.foldl VirtualMachine.applyEffect ({ s with world }.modifyCPU i fun ctx => { ctx with cpu := cpuS }) = s' at *
  generalize effects.foldl VirtualMachine.applyEffect ({ t with world }.modifyCPU i fun ctx => { ctx with cpu := cpuT }) = t' at *
  cases stepped with
  | threw what => exact ⟨fun _ => rfl, hbus.failWith what⟩
  | returned success =>
      cases success with
      | false =>
          dsimp only
          rw [hcpu'.halted]
          by_cases hhalted : cpuT.halted = true
          · rw [if_pos hhalted, if_pos hhalted]
            have hset : ∀ a b : CPUContext I, a.Matches stale lost b →
                CPUContext.Matches stale lost { a with state := .HALTED } { b with state := .HALTED } := by
              rintro a b ⟨cpu, hcpu, rfl⟩
              exact ⟨cpu, hcpu, rfl⟩
            exact ⟨fun _ => rfl,
              { hbus.modifyCPU i hset with sameRun := .of_state .STOPPED rfl rfl (by decide) }⟩
          · rw [if_neg hhalted, if_neg hhalted]
            exact ⟨fun _ => rfl, { hbus with sameRun := .of_state .ERROR rfl rfl (by decide) }⟩
      | true => exact (hbus.countStep i).tickTimer.finishStep

theorem captureSnapshotIfBoundary :
    Matches stale lost rewound s.captureSnapshotIfBoundary t.captureSnapshotIfBoundary := by
  obtain ⟨historyS, hs⟩ := captureSnapshotIfBoundary_eq s
  obtain ⟨historyT, ht⟩ := captureSnapshotIfBoundary_eq t
  rw [hs, ht]
  exact { h with sameRun := ⟨h.sameRun.state, h.sameRun.atInstructionBreakpoint⟩ }

theorem bypassInstructionBreakpoint {c d : CPU I} (hcd : c.Matches stale lost d) :
    s.bypassInstructionBreakpoint c = t.bypassInstructionBreakpoint d := by
  show (s.atInstructionBreakpoint && c.isAtBundleBoundary) = (t.atInstructionBreakpoint && d.isAtBundleBoundary)
  rw [h.sameRun.atInstructionBreakpoint, hcd.isAtBundleBoundary]

theorem stopsBefore {c d : CPU I} (hcd : c.Matches stale lost d) : s.stopsBefore c = t.stopsBefore d := by
  unfold VirtualMachine.stopsBefore
  rw [← h.debuggerAttached, h.bypassInstructionBreakpoint hcd, hcd.isAtBundleBoundary, CPU.getIP, CPU.getIP, hcd.getState]
  cases hattached : s.debuggerAttached with
  | false => rfl
  | true =>
      unfold VirtualMachine.checkBreakpoint
      rw [h.instructionBreakpoints hattached]

theorem stepContext (i : Nat) {a b : CPUContext I} (hab : a.Matches stale lost b)
    (hanew : stale → engine.FetchesAnew) (hreads : lost → a.cpu.ReadsItsBundle engine s.world) :
    (¬ rewound → (s.stepContext engine i a).1 = (t.stepContext engine i b).1) ∧
      Matches stale lost rewound (s.stepContext engine i a).2 (t.stepContext engine i b).2 := by
  have hactive : Matches stale lost rewound { s.wake with activeCPUIndex := i } { t.wake with activeCPUIndex := i } :=
    { h.wake with activeCPUIndex := rfl, sameRun := ⟨h.wake.sameRun.state, h.wake.sameRun.atInstructionBreakpoint⟩ }
  have hcaptured := hactive.captureSnapshotIfBoundary
  have hworld : { s.wake with activeCPUIndex := (i : Int) }.captureSnapshotIfBoundary.world = s.world :=
    (world_captureSnapshotIfBoundary _).trans (world_wake s)
  unfold VirtualMachine.stepContext
  dsimp only
  generalize { s.wake with activeCPUIndex := (i : Int) }.captureSnapshotIfBoundary = s' at *
  generalize { t.wake with activeCPUIndex := (i : Int) }.captureSnapshotIfBoundary = t' at *
  obtain ⟨cpu, hcpu, rfl⟩ := hab
  rw [← hcaptured.stopsBefore hcpu, ← hcaptured.bypassInstructionBreakpoint hcpu]
  cases s'.stopsBefore a.cpu with
  | error what => exact ⟨fun _ => rfl, hcaptured.failWith what⟩
  | ok stops =>
      cases stops with
      | true => exact ⟨fun _ => rfl, { hcaptured with sameRun := ⟨.inl rfl, rfl⟩ }⟩
      | false =>
          dsimp only
          rw [← hworld] at hreads
          cases s'.bypassInstructionBreakpoint a.cpu with
          | false => exact hcaptured.execute i ⟨cpu, hcpu, rfl⟩ hanew hreads
          | true =>
              have hpassed : Matches stale lost rewound { s' with lastBreakReason := "", state := .RUNNING }
                  { t' with lastBreakReason := "", state := .RUNNING } :=
                { hcaptured with sameRun := .of_state .RUNNING rfl rfl (by decide) }
              exact hpassed.execute i ⟨cpu, hcpu, rfl⟩ hanew hreads

theorem dead_iff : (s.state = .CREATED ∨ s.state = .ERROR) ↔ (t.state = .CREATED ∨ t.state = .ERROR) := by
  rcases h.sameRun.state with hstate | ⟨-, hs, ht⟩
  · rw [hstate]
  · simp [hs, ht]

theorem isValidCPUIndex_iff {cpuIndex : Int} : s.isValidCPUIndex cpuIndex ↔ t.isValidCPUIndex cpuIndex := by
  unfold VirtualMachine.isValidCPUIndex
  rw [h.cpus.length_eq]

theorem stepCPU (cpuIndex : Int) (hanew : stale → engine.FetchesAnew) (hreads : lost → s.ReadsBundles engine) :
    (¬ rewound → (s.stepCPU engine cpuIndex).1 = (t.stepCPU engine cpuIndex).1) ∧
      Matches stale lost rewound (s.stepCPU engine cpuIndex).2 (t.stepCPU engine cpuIndex).2 := by
  have hrefused : (s.state = .CREATED ∨ s.state = .ERROR ∨ ¬ s.isValidCPUIndex cpuIndex) ↔
      (t.state = .CREATED ∨ t.state = .ERROR ∨ ¬ t.isValidCPUIndex cpuIndex) := by
    rw [← or_assoc, ← or_assoc, h.dead_iff, h.isValidCPUIndex_iff]
  unfold VirtualMachine.stepCPU
  by_cases hs : s.state = .CREATED ∨ s.state = .ERROR ∨ ¬ s.isValidCPUIndex cpuIndex
  · rw [if_pos hs, if_pos (hrefused.mp hs)]
    exact ⟨fun _ => rfl, h⟩
  rw [if_neg hs, if_neg (mt hrefused.mpr hs)]
  rcases lt_or_ge cpuIndex.toNat s.cpus.length with hlt | hge
  · have hlt' : cpuIndex.toNat < t.cpus.length := h.cpus.length_eq ▸ hlt
    rw [List.getElem?_eq_getElem hlt, List.getElem?_eq_getElem hlt']
    exact h.stepContext cpuIndex.toNat (h.cpus.get hlt hlt') hanew fun hlost => hreads hlost _ (List.getElem_mem hlt)
  · rw [List.getElem?_eq_none hge, List.getElem?_eq_none (h.cpus.length_eq ▸ hge)]
    exact ⟨fun _ => rfl, h⟩

theorem scheduled : s.scheduled = t.scheduled := by
  refine map_eq_of_forall₂ ?_ h.cpus
  rintro a b ⟨cpu, -, rfl⟩
  rfl

theorem step (hanew : stale → engine.FetchesAnew) (hreads : lost → s.ReadsBundles engine) :
    (¬ rewound → (s.step engine).1 = (t.step engine).1) ∧
      Matches stale lost rewound (s.step engine).2 (t.step engine).2 := by
  unfold VirtualMachine.step
  by_cases hs : s.state = .CREATED ∨ s.state = .ERROR
  · rw [if_pos hs, if_pos (h.dead_iff.mp hs)]
    exact ⟨fun _ => rfl, h⟩
  rw [if_neg hs, if_neg (mt h.dead_iff.mpr hs)]
  have hreads' : lost → s.wake.ReadsBundles engine := by
    intro hlost
    unfold ReadsBundles
    rw [cpus_wake, world_wake]
    exact hreads hlost
  have hselected : s.wake.scheduler.selectNextCPU s.wake.scheduled = t.wake.scheduler.selectNextCPU t.wake.scheduled := by
    rw [h.wake.scheduled]
    refine selectNextCPU_congr (h.wake.lastCPUIndex.imp (fun hle => ?_) id)
    rw [← h.wake.scheduled]
    exact (List.length_map ..).trans_le hle
  dsimp only
  rw [hselected]
  cases t.wake.scheduler.selectNextCPU t.wake.scheduled with
  | none => exact ⟨fun _ => rfl, h.wake⟩
  | some cpuIndex =>
      dsimp only
      by_cases hvalid : s.wake.isValidCPUIndex cpuIndex
      · rw [if_pos hvalid, if_pos (h.wake.isValidCPUIndex_iff.mp hvalid)]
        exact h.wake.stepCPU cpuIndex hanew hreads'
      · rw [if_neg hvalid, if_neg (mt h.wake.isValidCPUIndex_iff.mpr hvalid)]
        exact ⟨fun _ => rfl, { h.wake with sameRun := .of_state .STOPPED rfl rfl (by decide) }⟩

theorem setState (state : VMState) (hne : state ≠ .PAUSED) :
    Matches stale lost rewound (if s.state = .CREATED ∨ s.state = .ERROR then s else { s with state })
      (if t.state = .CREATED ∨ t.state = .ERROR then t else { t with state }) := by
  by_cases hs : s.state = .CREATED ∨ s.state = .ERROR
  · rw [if_pos hs, if_pos (h.dead_iff.mp hs)]
    exact h
  · rw [if_neg hs, if_neg (mt h.dead_iff.mpr hs)]
    exact { h with sameRun := .of_state state rfl rfl hne }

/-- **Lockstep.** Machines that match still match after every sequence of calls. -/
theorem calls (hanew : stale → engine.FetchesAnew) {calls : List StepCall}
    (hreads : EveryStep (call engine) (fun vm _ => lost → vm.ReadsBundles engine) s calls) :
    Matches stale lost rewound (Runs.run (call engine) s calls) (Runs.run (call engine) t calls) := by
  refine run_related (r := Matches stale lost rewound) ?_ h hreads
  intro s t op h hreads
  cases op with
  | step => exact (h.step hanew hreads).2
  | stepCPU cpuIndex => exact (h.stepCPU cpuIndex hanew hreads).2
  | enterRun => exact h.setState .RUNNING (by decide)
  | stopAtLimit => exact h.setState .STOPPED (by decide)

end

/-- Machines that match, and have the same run state, run equally long. -/
theorem runLoop (h : Matches False False False s t) (maxCycles : UInt64) (fuel : Nat) (cycles : UInt64) :
    Option.Rel (fun r r' => r.1 = r'.1 ∧ Matches False False False r.2 r'.2) (s.runLoop engine maxCycles fuel cycles)
      (t.runLoop engine maxCycles fuel cycles) := by
  induction fuel generalizing s t cycles with
  | zero => exact .none
  | succ fuel ih =>
      have hstate : s.state = t.state := h.sameRun.state.resolve_right (fun hpaused => hpaused.1)
      obtain ⟨hgoes, hstep⟩ := h.step False.elim False.elim
      unfold VirtualMachine.runLoop
      rw [← hstate]
      by_cases hrunning : s.state ≠ .RUNNING
      · rw [if_pos hrunning, if_pos hrunning]
        exact .some ⟨rfl, h⟩
      rw [if_neg hrunning, if_neg hrunning]
      by_cases hlimit : maxCycles > 0 ∧ cycles ≥ maxCycles
      · rw [if_pos hlimit, if_pos hlimit]
        exact .some ⟨rfl, { h with sameRun := .of_state .STOPPED rfl rfl (by decide) }⟩
      rw [if_neg hlimit, if_neg hlimit]
      dsimp only
      rw [← hgoes id, ← h.cyclesExecuted, ← hstep.cyclesExecuted]
      cases (s.step engine).1 with
      | true => exact ih hstep _
      | false => exact .some ⟨rfl, hstep⟩

theorem run (h : Matches False False False s t) (fuel : Nat) (maxCycles : UInt64) :
    Option.Rel (fun r r' => r.1 = r'.1 ∧ Matches False False False r.2 r'.2) (s.run engine fuel maxCycles)
      (t.run engine fuel maxCycles) := by
  unfold VirtualMachine.run
  by_cases hs : s.state = .CREATED ∨ s.state = .ERROR
  · rw [if_pos hs, if_pos (h.dead_iff.mp hs)]
    exact .some ⟨rfl, h⟩
  rw [if_neg hs, if_neg (mt h.dead_iff.mpr hs)]
  have hrunning : Matches False False False { s with state := .RUNNING } { t with state := .RUNNING } :=
    { h with sameRun := .of_state .RUNNING rfl rfl (by decide) }
  exact hrunning.runLoop maxCycles fuel 0

end Matches

end VirtualMachine

end GuideXOS.Machine
