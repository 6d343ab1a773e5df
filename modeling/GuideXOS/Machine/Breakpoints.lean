import GuideXOS.Machine.TimeTravel

/-!
# `Breakpoints` — stopping once at every arrival

A debug session is a run of calls and of changes to the breakpoints. Beside the machine stand the processors that were
stopped in front of a bundle and were not stepped since (`Session.stopped`). The machine itself remembers less: one mark
for all processors, `PAUSED` with the reason of the last break, and `run` erases it. The session goes as it should exactly
as long as the mark is that of the processor that is stepped (`OwnsMark`).

Where a bundle begins is known to the engine of a processor. A processor with a plugin looks at its own copy of the bundle
instead, which is never filled (`ShadowEmpty`).
-/

namespace GuideXOS.Machine
open Lib Lib.Runs GuideXOS.Core GuideXOS.Isa GuideXOS.Vm

/-! ## Where a bundle begins -/

namespace CPU
variable {I : Type} {engine : Engine I} {c : CPU I}

/-- In front of the first slot of a bundle, for the engine of the processor. -/
def atFirstSlot (c : CPU I) : Bool :=
  match c.isaPlugin with
  | some plugin => plugin.dueSlot == 0
  | none => c.isAtBundleBoundary

/-- With a plugin, the copy of the bundle is not valid. -/
def ShadowEmpty (c : CPU I) : Prop := c.isaPlugin.isSome = true → c.bundleValid = false

theorem ShadowEmpty.isAtBundleBoundary (h : c.ShadowEmpty) (hplugin : c.isaPlugin.isSome = true) :
    c.isAtBundleBoundary = true := by
  simp [CPU.isAtBundleBoundary, h hplugin]

theorem ShadowEmpty.of_atFirstSlot (h : c.ShadowEmpty) (hfirst : c.atFirstSlot = true) :
    c.isAtBundleBoundary = true := by
  cases hplugin : c.isaPlugin with
  | some plugin => exact h.isAtBundleBoundary (by rw [hplugin]; rfl)
  | none => simpa only [atFirstSlot, hplugin] using hfirst

theorem ShadowEmpty.queueInterrupt (h : c.ShadowEmpty) (vector : UInt8) : (c.queueInterrupt vector).ShadowEmpty := by
  unfold CPU.queueInterrupt
  cases hplugin : c.isaPlugin with
  | some plugin =>
      intro _
      exact h (by rw [hplugin]; rfl)
  | none =>
      intro hsome
      cases hsome

theorem isaPlugin_fetchIfNeeded (c : CPU I) (w : World) : (c.fetchIfNeeded engine w).isaPlugin = c.isaPlugin := by
  unfold fetchIfNeeded
  split
  · split <;> rfl
  · rfl

theorem isaPlugin_nextSlot (c : CPU I) (resetSlot : Bool) : (c.nextSlot resetSlot).isaPlugin = c.isaPlugin := by
  unfold nextSlot
  dsimp only
  split <;> rfl

/-- The legacy engine does not make a plugin. -/
theorem isaPlugin_stepLegacy (c : CPU I) (w : World) : (c.stepLegacy engine w).2.1.isaPlugin = c.isaPlugin := by
  have hfetched : (c.servicePendingInterrupt.fetchIfNeeded engine w).isaPlugin = c.isaPlugin := by
    rw [isaPlugin_fetchIfNeeded, isaPlugin_servicePendingInterrupt]
  unfold stepLegacy
  dsimp only
  split
  · exact hfetched
  · split
    · rw [isaPlugin_nextSlot, hfetched]
    · split
      · exact hfetched
      · split
        · exact hfetched
        · rw [isaPlugin_nextSlot]
          exact hfetched

theorem ShadowEmpty.servicePendingInterrupt (h : c.ShadowEmpty) : c.servicePendingInterrupt.ShadowEmpty := by
  intro hsome
  rw [isaPlugin_servicePendingInterrupt] at hsome
  unfold CPU.servicePendingInterrupt
  split
  · rfl
  · exact h hsome

theorem ShadowEmpty.step (h : c.ShadowEmpty) (w : World) : (c.step engine w).2.1.ShadowEmpty := by
  unfold CPU.step
  cases hplugin : c.isaPlugin with
  | some plugin =>
      have hserviced : c.servicePendingInterrupt.bundleValid = false := by
        refine h.servicePendingInterrupt ?_
        rw [isaPlugin_servicePendingInterrupt, hplugin]
        rfl
      intro _
      show (c.stepPlugin engine plugin w).2.1.bundleValid = false
      unfold stepPlugin
      by_cases hhalted : c.halted = true
      · rw [if_pos hhalted]
        exact h (by rw [hplugin]; rfl)
      · rw [if_neg hhalted]
        generalize engine.pluginStep plugin w = r
        obtain ⟨ending, plugin', w', effects⟩ := r
        cases ending with
        | threw what => exact hserviced
        | result r => cases r <;> exact hserviced
  | none =>
      intro hsome
      rw [show (c.stepLegacy engine w).2.1.isaPlugin = none from (isaPlugin_stepLegacy c w).trans hplugin] at hsome
      cases hsome

theorem shadowEmpty_construct (usePlugin : Bool) : (construct usePlugin : CPU I).ShadowEmpty := fun _ => rfl

end CPU

namespace VirtualMachine
variable {I : Type} {engine : Engine I}

variable (vm : VirtualMachine I) (i : Nat)

/-- No processor with a plugin has a valid copy of a bundle. -/
def ShadowsEmpty : Prop := ∀ ctx ∈ vm.cpus, ctx.cpu.ShadowEmpty

/-! ## What a step counts, and what it leaves empty -/

theorem ShadowsEmpty.modifyCPU {vm : VirtualMachine I} (h : vm.ShadowsEmpty) (i : Nat)
    {f : CPUContext I → CPUContext I} (hf : ∀ ctx, ctx.cpu.ShadowEmpty → (f ctx).cpu.ShadowEmpty) :
    (vm.modifyCPU i f).ShadowsEmpty := by
  intro ctx hctx
  obtain ⟨j, hj⟩ := List.mem_iff_getElem?.mp hctx
  rw [show (vm.modifyCPU i f).cpus = vm.cpus.modify i f from rfl, List.getElem?_modify] at hj
  obtain ⟨old, hold, rfl⟩ := Option.map_eq_some_iff.mp hj
  have hempty := h old (List.mem_of_getElem? hold)
  split
  · exact hf old hempty
  · exact hempty

theorem quiet_shadowsEmpty : Quiet (ShadowsEmpty (I := I)) where
  interrupt i vector h := h.modifyCPU i fun _ hctx => hctx.queueInterrupt vector
  halted i h := h.modifyCPU i fun _ hctx => hctx
  around _ _ _ _ _ _ h := h

theorem quiet_cyclesExecuted (cycles : UInt64) : Quiet fun vm : VirtualMachine I => vm.cyclesExecuted = cycles :=
  ⟨fun _ _ h => h, fun _ h => h, fun _ _ _ _ _ _ h => h⟩

/-- **What an execution counts**: one cycle if it went through, also if it paused behind it. -/
theorem execute_cases (ctx : CPUContext I) :
    (vm.execute engine i ctx).1 = false ∧ (vm.execute engine i ctx).2.state ≠ .PAUSED ∨
      (vm.execute engine i ctx).2.cyclesExecuted = vm.cyclesExecuted + 1 ∧
        ((vm.execute engine i ctx).1 = true → (vm.execute engine i ctx).2.state = .RUNNING) := by
  unfold execute
  generalize ctx.cpu.step engine vm.world = r
  obtain ⟨stepped, cpu, world, effects⟩ := r
  have hbus : (effects.foldl applyEffect ({ vm with world }.modifyCPU i fun ctx => { ctx with cpu })).cyclesExecuted =
      vm.cyclesExecuted := (quiet_cyclesExecuted _).applyEffects effects rfl
  dsimp only
  generalize effects.foldl applyEffect ({ vm with world }.modifyCPU i fun ctx => { ctx with cpu }) = bus at hbus ⊢
  cases stepped with
  | threw what => exact .inl ⟨rfl, nofun⟩
  | returned success =>
      cases success with
      | false =>
          left
          dsimp only
          split <;> exact ⟨rfl, nofun⟩
      | true =>
          right
          dsimp only
          constructor
          · refine (quiet_cyclesExecuted _).finishStep ((quiet_cyclesExecuted _).tickTimer ?_)
            rw [← hbus]
            rfl
          · intro hgoes
            unfold finishStep at hgoes ⊢
            split at hgoes
            · cases hgoes
            · next h => rw [if_neg h]

/-- A machine that executed and is paused has counted a cycle. -/
theorem not_paused_of_execute (ctx : CPUContext I) (hpaused : (vm.execute engine i ctx).2.state = .PAUSED) :
    (vm.execute engine i ctx).2.cyclesExecuted ≠ vm.cyclesExecuted := by
  rcases vm.execute_cases i ctx with ⟨-, hne⟩ | ⟨hcounted, -⟩
  · exact absurd hpaused hne
  · rw [hcounted]
    simp

theorem ShadowsEmpty.execute {vm : VirtualMachine I} (h : vm.ShadowsEmpty) (i : Nat) {ctx : CPUContext I}
    (hctx : ctx.cpu.ShadowEmpty) : (vm.execute engine i ctx).2.ShadowsEmpty :=
  quiet_shadowsEmpty.execute (fun hs => hs.modifyCPU i fun _ hc => hc) (h.modifyCPU i fun _ _ => hctx.step vm.world)

/-! ## What a call does about a breakpoint -/

/-- What the breakpoint at a processor says, if there is one. -/
def verdict (cpu : CPU I) : Except String Bool :=
  if vm.debuggerAttached then
    match vm.checkBreakpoint cpu.getIP with
    | none => .ok false
    | some breakpoint => evaluateCondition breakpoint.condition cpu.getState
  else .ok false

/-- The machine in which a step of processor `i` looks at the breakpoints. -/
def looking (i : Nat) : VirtualMachine I := (vm.boundary i).captureSnapshotIfBoundary

/-- A call pauses the machine at an instruction breakpoint, instead of executing an instruction. -/
def arrests (engine : Engine I) (vm : VirtualMachine I) (op : StepCall) : Bool :=
  (vm.call engine op).atInstructionBreakpoint && (vm.call engine op).cyclesExecuted == vm.cyclesExecuted

/-- A call gets as far as the step of its processor. -/
structure Executes (engine : Engine I) (vm : VirtualMachine I) (op : StepCall) (i : Nat) (ctx : CPUContext I) : Prop where
  goesOn : (vm.looking i).stopsBefore ctx.cpu = .ok false
  executes : ∃ state lastBreakReason,
    vm.call engine op = ({ vm.looking i with state, lastBreakReason }.execute engine i ctx).2

theorem looking_eq : ∃ snapshotHistory,
    vm.looking i = { vm with state := vm.wake.state, activeCPUIndex := i, snapshotHistory } := by
  obtain ⟨history, hhistory⟩ := captureSnapshotIfBoundary_eq (vm.boundary i)
  refine ⟨history, ?_⟩
  unfold looking
  rw [hhistory, boundary, wake_eq]

theorem paused_wake : (vm.wake.state == .PAUSED) = (vm.state == .PAUSED) := by
  unfold wake
  split
  next hasleep => simp [hasleep.2]
  next => rfl

/-- A breakpoint is looked at in front of what the processor takes for a bundle, unless the mark stands. -/
theorem stopsBefore_looking (cpu : CPU I) :
    (vm.looking i).stopsBefore cpu =
      if vm.atInstructionBreakpoint = false ∧ cpu.isAtBundleBoundary = true then vm.verdict cpu else .ok false := by
  obtain ⟨history, hlooking⟩ := vm.looking_eq i
  rw [hlooking]
  unfold stopsBefore bypassInstructionBreakpoint verdict atInstructionBreakpoint checkBreakpoint
  dsimp only
  rw [paused_wake]
  generalize (vm.state == .PAUSED && vm.lastBreakReason == "instruction breakpoint") = mark
  cases vm.debuggerAttached <;> cases mark <;> cases cpu.isAtBundleBoundary <;> rfl

section Addressed
variable {vm : VirtualMachine I} {op : StepCall} {i : Nat} {ctx : CPUContext I}

section
variable (h : vm.addressed op = some i) (hctx : vm.cpus[i]? = some ctx)
include h hctx

theorem call_of_looking : vm.call engine op =
      match (vm.looking i).stopsBefore ctx.cpu with
      | .error what => (vm.looking i).failWith what
      | .ok true => { vm.looking i with state := .PAUSED, lastBreakReason := "instruction breakpoint" }
      | .ok false =>
          (execute engine (if (vm.looking i).bypassInstructionBreakpoint ctx.cpu then
            { vm.looking i with lastBreakReason := "", state := .RUNNING } else vm.looking i) i ctx).2 := by
  obtain ⟨ctx', hctx', hcall⟩ : ∃ ctx, vm.cpus[i]? = some ctx ∧ vm.call engine op = (vm.stepContext engine i ctx).2 :=
    call_of_addressed h
  rw [hctx] at hctx'
  cases hctx'
  rw [hcall]
  unfold stepContext looking boundary
  dsimp only
  generalize { vm.wake with activeCPUIndex := (i : Int) }.captureSnapshotIfBoundary = b
  cases b.stopsBefore ctx.cpu with
  | error what => rfl
  | ok stops => cases stops <;> rfl

/-- **A call stops** where the breakpoint says so and the mark does not stand, and changes no processor. -/
theorem call_of_stops (hstops : (vm.looking i).stopsBefore ctx.cpu = .ok true) :
    vm.call engine op = { vm.looking i with state := .PAUSED, lastBreakReason := "instruction breakpoint" } := by
  rw [call_of_looking h hctx, hstops]

theorem executes_of_goesOn (hgoes : (vm.looking i).stopsBefore ctx.cpu = .ok false) : Executes engine vm op i ctx := by
  refine ⟨hgoes, ?_⟩
  rw [call_of_looking h hctx, hgoes]
  dsimp only
  by_cases hbypass : (vm.looking i).bypassInstructionBreakpoint ctx.cpu = true
  · rw [if_pos hbypass]
    exact ⟨_, _, rfl⟩
  · rw [if_neg hbypass]
    exact ⟨_, _, rfl⟩

end

theorem call_of_fails {what : String} (h : vm.addressed op = some i) (hctx : vm.cpus[i]? = some ctx)
    (hfails : (vm.looking i).stopsBefore ctx.cpu = .error what) :
    vm.call engine op = (vm.looking i).failWith what := by
  rw [call_of_looking h hctx, hfails]

theorem cyclesExecuted_looking (vm : VirtualMachine I) (i : Nat) :
    (vm.looking i).cyclesExecuted = vm.cyclesExecuted := by
  obtain ⟨history, hlooking⟩ := vm.looking_eq i
  rw [hlooking]

/-- **An arrest is a stop**: nothing else leaves the machine paused with no cycle counted. -/
theorem arrests_iff (h : vm.addressed op = some i) (hctx : vm.cpus[i]? = some ctx) :
    vm.arrests engine op = true ↔ (vm.looking i).stopsBefore ctx.cpu = .ok true := by
  have hcycles := vm.cyclesExecuted_looking i
  cases hstops : (vm.looking i).stopsBefore ctx.cpu with
  | error what =>
      simp [arrests, atInstructionBreakpoint, call_of_fails h hctx hstops, failWith]
  | ok stops =>
      cases stops with
      | true => simp [arrests, atInstructionBreakpoint, call_of_stops h hctx hstops, hcycles]
      | false =>
          obtain ⟨-, state, reason, hcall⟩ : Executes engine vm op i ctx := executes_of_goesOn h hctx hstops
          have hcounts : (vm.call engine op).state = .PAUSED →
              (vm.call engine op).cyclesExecuted ≠ (vm.looking i).cyclesExecuted := by
            rw [hcall]
            exact not_paused_of_execute { vm.looking i with state, lastBreakReason := reason } i ctx
          simp only [arrests, atInstructionBreakpoint, Bool.and_eq_true, beq_iff_eq, Except.ok.injEq,
            Bool.false_eq_true, iff_false]
          rintro ⟨⟨hpaused, -⟩, hsame⟩
          exact hcounts hpaused (hsame.trans hcycles.symm)

end Addressed

/-! ## Sessions -/

/-- A call, or a change to the breakpoints. -/
inductive DebugCall
  | call (op : StepCall)
  | setBreakpoint (address : UInt64)
  | setConditionalBreakpoint (address : UInt64) (condition : DebugCondition)
  | clearBreakpoint (address : UInt64)

def debug (engine : Engine I) (vm : VirtualMachine I) (c : DebugCall) : VirtualMachine I :=
  match c with
  | .call op => vm.call engine op
  | .setBreakpoint address => (vm.setBreakpoint address).2
  | .setConditionalBreakpoint address condition => (vm.setConditionalBreakpoint address condition).2
  | .clearBreakpoint address => (vm.clearBreakpoint address).2

theorem setBreakpoint_eq (address : UInt64) : ∃ instructionBreakpoints,
    (vm.setBreakpoint address).2 = { vm with instructionBreakpoints } := by
  unfold setBreakpoint
  split
  · exact ⟨_, rfl⟩
  · split <;> exact ⟨_, rfl⟩

/-- A change to the breakpoints changes nothing else. -/
theorem debug_eq {c : DebugCall} (hc : ∀ op, c ≠ .call op) : ∃ instructionBreakpoints,
    vm.debug engine c = { vm with instructionBreakpoints } := by
  cases c with
  | call op => exact absurd rfl (hc op)
  | setBreakpoint address => exact vm.setBreakpoint_eq address
  | setConditionalBreakpoint address condition =>
      obtain ⟨breakpoints, hset⟩ := vm.setBreakpoint_eq address
      show ∃ instructionBreakpoints, (vm.setConditionalBreakpoint address condition).2 = { vm with instructionBreakpoints }
      unfold setConditionalBreakpoint
      generalize vm.setBreakpoint address = r at hset ⊢
      obtain ⟨done, vm'⟩ := r
      cases (show vm' = _ from hset)
      cases done <;> exact ⟨_, rfl⟩
  | clearBreakpoint address =>
      show ∃ instructionBreakpoints, (vm.clearBreakpoint address).2 = { vm with instructionBreakpoints }
      unfold clearBreakpoint
      split
      · exact ⟨_, rfl⟩
      · split <;> exact ⟨_, rfl⟩

/-- **A call** keeps a property if the look at the breakpoints does, and a step of a processor. -/
theorem Quiet.call {P : VirtualMachine I → Prop} (h : Quiet P) {vm : VirtualMachine I} (hvm : P vm)
    (hlooking : ∀ i, P (vm.looking i)) (hexecute : ∀ {s i ctx}, P s → s.cpus = vm.cpus → vm.cpus[i]? = some ctx →
      P (s.execute engine i ctx).2) (op : StepCall) : P (vm.call engine op) := by
  cases haddressed : vm.addressed op with
  | none =>
      obtain ⟨state, hcall⟩ : ∃ state, vm.call engine op = { vm with state } := call_of_idle haddressed
      rw [hcall]
      exact h.around _ _ _ _ _ _ hvm
  | some i =>
      obtain ⟨ctx, hctx, -⟩ : ∃ ctx, vm.cpus[i]? = some ctx ∧ vm.call engine op = (vm.stepContext engine i ctx).2 :=
        call_of_addressed haddressed
      cases hstops : (vm.looking i).stopsBefore ctx.cpu with
      | error what =>
          rw [call_of_fails haddressed hctx hstops]
          exact h.around _ _ _ _ _ _ (hlooking i)
      | ok stops =>
          cases stops with
          | true =>
              rw [call_of_stops haddressed hctx hstops]
              exact h.around _ _ _ _ _ _ (hlooking i)
          | false =>
              obtain ⟨-, state, reason, hcall⟩ : Executes engine vm op i ctx := executes_of_goesOn haddressed hctx hstops
              rw [hcall]
              refine hexecute (h.around _ _ _ _ _ _ (hlooking i)) ?_ hctx
              obtain ⟨history, hlooked⟩ := vm.looking_eq i
              rw [hlooked]

theorem ShadowsEmpty.call {vm : VirtualMachine I} (h : vm.ShadowsEmpty) (op : StepCall) :
    (vm.call engine op).ShadowsEmpty := by
  refine quiet_shadowsEmpty.call h (fun i => ?_) (fun hs _ hctx => hs.execute _ (h _ (List.mem_of_getElem? hctx))) op
  obtain ⟨history, hlooking⟩ := vm.looking_eq i
  rw [hlooking]
  exact h

theorem ShadowsEmpty.debug {vm : VirtualMachine I} (h : vm.ShadowsEmpty) (c : DebugCall) :
    (vm.debug engine c).ShadowsEmpty := by
  by_cases hc : ∃ op, c = .call op
  · obtain ⟨op, rfl⟩ := hc
    exact h.call op
  · obtain ⟨breakpoints, hdebug⟩ : ∃ instructionBreakpoints, vm.debug engine c = { vm with instructionBreakpoints } :=
      vm.debug_eq fun op hop => hc ⟨op, hop⟩
    rw [hdebug]
    exact h

/-- `init` resets every processor. -/
theorem shadowsEmpty_initializeSubsystems : vm.initializeSubsystems.ShadowsEmpty := by
  intro ctx hctx
  obtain ⟨old, -, rfl⟩ := List.mem_map.mp hctx
  exact fun _ => rfl

theorem ShadowsEmpty.startFirstCPU {vm : VirtualMachine I} (h : vm.ShadowsEmpty) : vm.startFirstCPU.ShadowsEmpty := by
  unfold VirtualMachine.startFirstCPU
  split
  · exact h
  · exact h.modifyCPU 0 fun _ hctx => hctx

theorem ShadowsEmpty.init {vm : VirtualMachine I} (h : vm.ShadowsEmpty) : vm.init.2.ShadowsEmpty := by
  unfold VirtualMachine.init
  generalize vm.bootStateMachine.powerOn = r
  obtain ⟨on, machine⟩ := r
  cases on with
  | false => exact h
  | true =>
      have hready : { vm.initializeSubsystems with
          scheduler := vm.initializeSubsystems.scheduler.initializeCPUs vm.initializeSubsystems.scheduled }.ShadowsEmpty :=
        vm.shadowsEmpty_initializeSubsystems
      exact hready.startFirstCPU

end VirtualMachine

open VirtualMachine

/-- A machine in a debug session, and the processors that were stopped at an arrival and were not stepped since. -/
structure Session (I : Type) where
  vm : VirtualMachine I
  shadows : vm.ShadowsEmpty
  stopped : Nat → Bool := fun _ => false

namespace Session
variable {I : Type} {engine : Engine I} (s : Session I)

def next (engine : Engine I) (s : Session I) (c : DebugCall) : Session I where
  vm := s.vm.debug engine c
  shadows := s.shadows.debug c
  stopped :=
    match c with
    | .call op =>
        match s.vm.addressed op with
        | some i => Function.update s.stopped i (s.vm.arrests engine op)
        | none => s.stopped
    | _ => s.stopped

/-- What a call is to do with the processor it gets to. -/
structure StopsOnce (engine : Engine I) (s : Session I) (op : StepCall) (i : Nat) (ctx : CPUContext I) : Prop where
  /-- It stops at an arrival with a breakpoint that applies, the first time, and nowhere else. -/
  arrests : s.vm.arrests engine op = true ↔
    (ctx.cpu.atFirstSlot = true ∧ s.vm.verdict ctx.cpu = .ok true) ∧ s.stopped i = false
  /-- A stop comes before anything is executed. -/
  unchanged : s.vm.arrests engine op = true →
    (s.vm.call engine op).cpus = s.vm.cpus ∧ (s.vm.call engine op).world = s.vm.world
  /-- The next time, the processor is stepped. -/
  executes : s.stopped i = true → s.vm.Executes engine op i ctx

/-- Every arrival at a breakpoint that applies stops the machine exactly once. -/
def StopsOncePerArrival (engine : Engine I) (s : Session I) (c : DebugCall) : Prop :=
  ∀ op i ctx, c = .call op → s.vm.addressed op = some i → s.vm.cpus[i]? = some ctx → StopsOnce engine s op i ctx

/-- The mark stands for the processor that is stepped. One that was stopped finds it, or no breakpoint. One that was not
    stopped, and to which a breakpoint applies, finds none in front of a bundle; in the middle of a bundle it does, if it
    takes that for the beginning of one. -/
def OwnsMark (c : DebugCall) : Prop :=
  ∀ op i ctx, c = .call op → s.vm.addressed op = some i → s.vm.cpus[i]? = some ctx →
    if s.stopped i = true then
      s.vm.atInstructionBreakpoint = true ∨ ctx.cpu.isAtBundleBoundary = false ∨ s.vm.verdict ctx.cpu = .ok false
    else
      s.vm.verdict ctx.cpu = .ok true → ctx.cpu.isAtBundleBoundary = true →
        (s.vm.atInstructionBreakpoint = true ↔ ctx.cpu.atFirstSlot = false)

/-- While the mark stands only the processor that was stopped is stepped, and nothing is run; and no processor with a
    plugin is stepped in the middle of a bundle to which a breakpoint applies. -/
def Considerate (c : DebugCall) : Prop :=
  ∀ op, c = .call op →
    (s.vm.atInstructionBreakpoint = true → ∃ i, s.vm.addressed op = some i ∧ s.stopped i = true) ∧
    ∀ i ctx, s.vm.addressed op = some i → s.vm.cpus[i]? = some ctx → ctx.cpu.isaPlugin.isSome = true →
      ctx.cpu.atFirstSlot = false → s.vm.verdict ctx.cpu ≠ .ok true

section Step
variable {s : Session I} {op : StepCall} {i : Nat} {ctx : CPUContext I}
variable (h : s.vm.addressed op = some i) (hctx : s.vm.cpus[i]? = some ctx)
include h hctx

theorem arrests_iff :
    s.vm.arrests engine op = true ↔ (s.vm.atInstructionBreakpoint = false ∧ ctx.cpu.isAtBundleBoundary = true) ∧
      s.vm.verdict ctx.cpu = .ok true := by
  rw [VirtualMachine.arrests_iff h hctx, stopsBefore_looking]
  split
  next hlooks => simp [hlooks]
  next hlooks => simp [hlooks]

theorem executes_iff :
    s.vm.Executes engine op i ctx ↔ s.vm.atInstructionBreakpoint = true ∨ ctx.cpu.isAtBundleBoundary = false ∨
      s.vm.verdict ctx.cpu = .ok false := by
  have hgoes : s.vm.Executes engine op i ctx ↔ (s.vm.looking i).stopsBefore ctx.cpu = .ok false :=
    ⟨Executes.goesOn, executes_of_goesOn h hctx⟩
  rw [hgoes, stopsBefore_looking]
  cases s.vm.atInstructionBreakpoint <;> cases ctx.cpu.isAtBundleBoundary <;> simp

theorem unchanged_of_arrests (harrests : s.vm.arrests engine op = true) :
    (s.vm.call engine op).cpus = s.vm.cpus ∧ (s.vm.call engine op).world = s.vm.world := by
  obtain ⟨history, hlooking⟩ := s.vm.looking_eq i
  rw [call_of_stops h hctx ((VirtualMachine.arrests_iff h hctx).mp harrests), hlooking]
  exact ⟨rfl, rfl⟩

end Step

/-- **One call.** It stops as it should exactly where the mark stands for its processor. -/
theorem stopsOncePerArrival_iff (c : DebugCall) : StopsOncePerArrival engine s c ↔ s.OwnsMark c := by
  refine forall_congr' fun op => forall_congr' fun i => forall_congr' fun ctx => forall_congr' fun _ =>
    forall_congr' fun h => forall_congr' fun hctx => ?_
  have hfirst : ctx.cpu.atFirstSlot = true → ctx.cpu.isAtBundleBoundary = true :=
    (s.shadows ctx (List.mem_of_getElem? hctx)).of_atFirstSlot
  have harrests : s.vm.arrests engine op = true ↔
      (s.vm.atInstructionBreakpoint = false ∧ ctx.cpu.isAtBundleBoundary = true) ∧ s.vm.verdict ctx.cpu = .ok true :=
    arrests_iff h hctx
  have hexecutes : s.vm.Executes engine op i ctx ↔ s.vm.atInstructionBreakpoint = true ∨
      ctx.cpu.isAtBundleBoundary = false ∨ s.vm.verdict ctx.cpu = .ok false := executes_iff h hctx
  constructor
  · rintro ⟨hstops, -, hgoes⟩
    by_cases hstopped : s.stopped i = true
    · rw [if_pos hstopped]
      exact hexecutes.mp (hgoes hstopped)
    · rw [if_neg hstopped]
      intro hverdict hboundary
      rw [harrests] at hstops
      cases hmark : s.vm.atInstructionBreakpoint <;> cases hslot : ctx.cpu.atFirstSlot <;>
        simp_all
  · intro hmark
    by_cases hstopped : s.stopped i = true
    · rw [if_pos hstopped] at hmark
      have hgoes : s.vm.Executes engine op i ctx := hexecutes.mpr hmark
      have hnot : ¬ s.vm.arrests engine op = true := by
        rw [VirtualMachine.arrests_iff h hctx, hgoes.goesOn]
        simp
      exact ⟨by simp [hnot, hstopped], unchanged_of_arrests h hctx, fun _ => hgoes⟩
    · rw [if_neg hstopped] at hmark
      refine ⟨?_, unchanged_of_arrests h hctx, fun hstopped' => absurd hstopped' hstopped⟩
      rw [harrests]
      constructor
      · rintro ⟨⟨hoff, hboundary⟩, hverdict⟩
        refine ⟨⟨?_, hverdict⟩, by simpa using hstopped⟩
        by_contra hslot
        have hon := (hmark hverdict hboundary).mpr (by simpa using hslot)
        rw [hoff] at hon
        cases hon
      · rintro ⟨⟨hslot, hverdict⟩, -⟩
        refine ⟨⟨?_, hfirst hslot⟩, hverdict⟩
        by_contra hon
        have hmiddle := (hmark hverdict (hfirst hslot)).mp (by simpa using hon)
        rw [hslot] at hmiddle
        cases hmiddle

/-! ## Whole sessions -/

/-- The mark stands for whatever processor was stopped, which is one at most. -/
structure MarkHeld (s : Session I) : Prop where
  marked : ∀ i, s.stopped i = true → s.vm.atInstructionBreakpoint = true
  one : ∀ i j, s.stopped i = true → s.stopped j = true → i = j

theorem MarkHeld.next {s : Session I} {c : DebugCall} (h : s.MarkHeld) (hc : s.Considerate c) :
    (s.next engine c).MarkHeld := by
  by_cases hcall : ∃ op, c = .call op
  · obtain ⟨op, rfl⟩ := hcall
    have hwaits := (hc op rfl).1
    cases haddressed : s.vm.addressed op with
    | none =>
        have hnone : ∀ i, ¬ (s.next engine (.call op)).stopped i = true := by
          intro i hstopped
          rw [Session.next] at hstopped
          simp only [haddressed] at hstopped
          obtain ⟨j, hj, -⟩ := hwaits (h.marked i hstopped)
          rw [haddressed] at hj
          cases hj
        exact ⟨fun i hi => absurd hi (hnone i), fun i j hi => absurd hi (hnone i)⟩
    | some i =>
        -- whoever is stopped now was stopped by this call
        have honly : ∀ j, (s.next engine (.call op)).stopped j = true → j = i ∧ s.vm.arrests engine op = true := by
          intro j hstopped
          rw [Session.next] at hstopped
          simp only [haddressed] at hstopped
          by_cases hji : j = i
          · rw [hji, Function.update_self] at hstopped
            exact ⟨hji, hstopped⟩
          · rw [Function.update_of_ne hji] at hstopped
            obtain ⟨k, hk, hkstopped⟩ := hwaits (h.marked j hstopped)
            rw [haddressed] at hk
            cases hk
            exact absurd (h.one j i hstopped hkstopped) hji
        refine ⟨fun j hj => ?_, fun j k hj hk => (honly j hj).1.trans (honly k hk).1.symm⟩
        exact (Bool.and_eq_true _ _ ▸ (honly j hj).2 : _ ∧ _).1
  · have hedit : ∀ op, c ≠ .call op := fun op hop => hcall ⟨op, hop⟩
    obtain ⟨breakpoints, hdebug⟩ : ∃ instructionBreakpoints, s.vm.debug engine c = { s.vm with instructionBreakpoints } :=
      s.vm.debug_eq hedit
    have hmark : (s.next engine c).vm.atInstructionBreakpoint = s.vm.atInstructionBreakpoint := by
      show (s.vm.debug engine c).atInstructionBreakpoint = _
      rw [hdebug]
      rfl
    have hstopped : (s.next engine c).stopped = s.stopped := by
      cases c with
      | call op => exact absurd rfl (hedit op)
      | _ => rfl
    exact ⟨fun i hi => hmark.trans (h.marked i (hstopped ▸ hi)), fun i j hi hj => h.one i j (hstopped ▸ hi) (hstopped ▸ hj)⟩

/-- A mark that is held, and is minded, stands for the processor that is stepped. -/
theorem MarkHeld.ownsMark {s : Session I} {c : DebugCall} (h : s.MarkHeld) (hc : s.Considerate c) : s.OwnsMark c := by
  intro op i ctx hop haddressed hctx
  obtain ⟨hwaits, hmiddle⟩ := hc op hop
  by_cases hstopped : s.stopped i = true
  · rw [if_pos hstopped]
    exact .inl (h.marked i hstopped)
  · rw [if_neg hstopped]
    intro hverdict hboundary
    constructor
    · intro hmark
      obtain ⟨j, hj, hjstopped⟩ := hwaits hmark
      rw [haddressed] at hj
      cases hj
      exact absurd hjstopped hstopped
    · intro hslot
      cases hplugin : ctx.cpu.isaPlugin with
      | some plugin => exact absurd hverdict (hmiddle i ctx haddressed hctx (by rw [hplugin]; rfl) hslot)
      | none =>
          have hlegacy : ctx.cpu.atFirstSlot = ctx.cpu.isAtBundleBoundary := by simp only [CPU.atFirstSlot, hplugin]
          rw [← hlegacy, hslot] at hboundary
          cases hboundary

/-- **Breakpoints stop once at every arrival** throughout exactly the sessions in which the mark always stands for the
    processor that is stepped; and so it does where nothing else is stepped, or run, while it stands, and no processor with
    a plugin is stepped in the middle of a bundle to which a breakpoint applies. -/
theorem stops_once_per_arrival {vm : VirtualMachine I} (h : vm.ShadowsEmpty) (calls : List DebugCall) :
    (EveryStep (next engine) (StopsOncePerArrival engine) ⟨vm, h, fun _ => false⟩ calls ↔
        EveryStep (next engine) OwnsMark ⟨vm, h, fun _ => false⟩ calls) ∧
      (EveryStep (next engine) Considerate ⟨vm, h, fun _ => false⟩ calls →
        EveryStep (next engine) (StopsOncePerArrival engine) ⟨vm, h, fun _ => false⟩ calls) := by
  constructor
  · exact everyStep_congr (fun _ => True) (fun s c _ => s.stopsOncePerArrival_iff c) (fun _ _ _ _ => trivial) trivial
  · intro hconsiderate
    have hnone : (⟨vm, h, fun _ => false⟩ : Session I).MarkHeld := ⟨fun _ hi => (nomatch hi), fun _ _ hi => (nomatch hi)⟩
    exact everyStep_of_invariant MarkHeld (fun _ _ hheld hc => hheld.next hc)
      (fun s c hheld hc => (s.stopsOncePerArrival_iff c).mpr (hheld.ownsMark hc)) hnone hconsiderate

/-! ## In a memory of nops -/

/-- One processor in front of a breakpoint. -/
def stoppable (usePlugin : Bool) : VirtualMachine Unit := ((nopMachine 1 usePlugin).attach_debugger.2.setBreakpoint 0).2

theorem shadowsEmpty_stoppable (usePlugin : Bool) : (stoppable usePlugin).ShadowsEmpty := by
  have hconstructed : (constructed ⟨1, usePlugin, fun _ _ => true⟩ { data := List.replicate 16 0 } :
      VirtualMachine Unit).ShadowsEmpty := by
    intro ctx hctx
    rw [List.eq_of_mem_replicate hctx]
    exact CPU.shadowEmpty_construct usePlugin
  have hattached : (nopMachine 1 usePlugin).attach_debugger.2.ShadowsEmpty := by
    unfold attach_debugger
    split
    · exact hconstructed.init
    · exact hconstructed.init
  have hset : ((nopMachine 1 usePlugin).attach_debugger.2.debug nopEngine (.setBreakpoint 0)).ShadowsEmpty :=
    hattached.debug (.setBreakpoint 0)
  exact hset

/-- A call of a machine without plugins is considerate if the mark does not stand or is that of the first processor. -/
theorem considerate_of_legacy {s : Session I} {op : StepCall}
    (hlegacy : s.vm.cpus.all (fun ctx => ctx.cpu.isaPlugin.isNone) = true)
    (hmark : s.vm.atInstructionBreakpoint = false ∨ s.vm.addressed op = some 0 ∧ s.stopped 0 = true) :
    s.Considerate (.call op) := by
  rintro op' ⟨⟩
  constructor
  · intro hon
    rcases hmark with hoff | hfirst
    · rw [hoff] at hon
      cases hon
    · exact ⟨0, hfirst⟩
  · intro i ctx _ hctx hplugin
    have hnone := List.all_eq_true.mp hlegacy ctx (List.mem_of_getElem? hctx)
    rw [Option.isNone_iff_eq_none] at hnone
    rw [hnone] at hplugin
    cases hplugin

/-- Stopped, stepped over the breakpoint, and on with another breakpoint: nothing disturbs the mark. -/
theorem stops_once_per_arrival_nops :
    EveryStep (next nopEngine) (StopsOncePerArrival nopEngine) ⟨stoppable false, shadowsEmpty_stoppable false, fun _ => false⟩
      [.call .step, .call .step, .setBreakpoint 16, .call .step] := by
  refine (stops_once_per_arrival (shadowsEmpty_stoppable false) _).2 ⟨?_, ?_, ?_, ?_, trivial⟩
  · exact considerate_of_legacy (by decide +kernel) (.inl (by decide +kernel))
  · exact considerate_of_legacy (by decide +kernel) (.inr (by decide +kernel))
  · exact fun op hop => nomatch hop
  · exact considerate_of_legacy (by decide +kernel) (.inl (by decide +kernel))

/-- **`run` stops again** at the breakpoint it has stopped at, as often as it is called; and with a plugin a breakpoint stops
    the processor in the middle of its bundle. -/
theorem run_stops_again :
    (¬ EveryStep (next nopEngine) (StopsOncePerArrival nopEngine)
        ⟨stoppable false, shadowsEmpty_stoppable false, fun _ => false⟩ [.call .step, .call .enterRun, .call .step]) ∧
      (((stoppable false).run nopEngine 5 0).bind fun r => r.2.run nopEngine 5 0).map
        (fun r => (r.1, r.2.lastBreakReason)) = some (0, "instruction breakpoint") ∧
      ¬ EveryStep (next nopEngine) (StopsOncePerArrival nopEngine)
        ⟨stoppable true, shadowsEmpty_stoppable true, fun _ => false⟩ [.call .step, .call .step, .call .step] := by
  refine ⟨?_, by decide +kernel, ?_⟩
  · rintro ⟨-, -, hstep, -⟩
    -- the same arrival, a second time
    have hfirst : (next nopEngine (next nopEngine ⟨stoppable false, shadowsEmpty_stoppable false, fun _ => false⟩
        (.call .step)) (.call .enterRun)).vm.addressed .step = some 0 := by decide +kernel
    obtain ⟨ctx, hctx, -⟩ := @call_of_addressed _ nopEngine _ _ _ hfirst
    have hagain := ((hstep .step 0 ctx rfl hfirst hctx).arrests.mp (by decide +kernel)).2
    exact absurd hagain (by decide +kernel)
  · rintro ⟨-, -, hstep, -⟩
    -- behind the first slot
    have hfirst : (next nopEngine (next nopEngine ⟨stoppable true, shadowsEmpty_stoppable true, fun _ => false⟩
        (.call .step)) (.call .step)).vm.addressed .step = some 0 := by decide +kernel
    obtain ⟨ctx, hctx, -⟩ := @call_of_addressed _ nopEngine _ _ _ hfirst
    have hslot := ((hstep .step 0 ctx rfl hfirst hctx).arrests.mp (by decide +kernel)).1.1
    have hmiddle : (next nopEngine (next nopEngine ⟨stoppable true, shadowsEmpty_stoppable true, fun _ => false⟩
        (.call .step)) (.call .step)).vm.cpus.all (fun ctx => !ctx.cpu.atFirstSlot) = true := by decide +kernel
    have hnot := List.all_eq_true.mp hmiddle ctx (List.mem_of_getElem? hctx)
    rw [hslot] at hnot
    cases hnot

end Session

end GuideXOS.Machine
