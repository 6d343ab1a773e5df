import GuideXOS.Lib.Isolation
import GuideXOS.Isa.Checkpoint

/-!
# `Isolation` — several plugins in one process

Each plugin owns its processor, its firmware state and its guest memory, but the handoff addresses are
variables of the process: construction reads them, `reset`, the first step and a restore write them, and an
EFI service compares and hands out whatever they hold at that moment. `PluginOp` is what can be done to a
plugin; several plugins over one process are a `Lib.Isolation.System` whose shared state is
`EfiHandoffGlobals`.

`UsesHandoff` tells the operations that look at the addresses from those that do not. `isolation` says that a
plugin which always finds there what its own operations left observes what it observes alone.
-/

namespace GuideXOS.Isa
open Lib Lib.Words Lib.Runs Lib.Isolation GuideXOS.Core

/-! ## Waiting for an event -/

def EFI_STATUS_UNSUPPORTED : UInt64 := 0x8000000000000003

namespace EfiHandoffGlobals

def EFI_CONSOLE_INPUT_EVENT_ADDR (g : EfiHandoffGlobals) : UInt64 := g.EFI_HANDOFF_REGION_BASE + 0x1AE0
def EFI_WAIT_FOR_EVENT_STUB_CODE_ADDR (g : EfiHandoffGlobals) : UInt64 := g.EFI_HANDOFF_REGION_BASE + 0x1D40

end EfiHandoffGlobals

section WaitForEvent
variable {I M : Type} [IMemory M]

/-- The loop over the caller's events, from `index` on. Only the console event exists. -/
def scanEvents (g : EfiHandoffGlobals) (memory : M) (events indexOut : UInt64) (queueEmpty : Bool) :
    Nat → UInt64 → UInt64 × M
  | 0, _ => (EFI_STATUS_UNSUPPORTED, memory)
  | remaining + 1, index =>
      match readGuestU64 memory (events + index * 8) with
      | none => (EFI_STATUS_INVALID_PARAMETER, memory)
      | some event =>
          if event ≠ g.EFI_CONSOLE_INPUT_EVENT_ADDR then
            scanEvents g memory events indexOut queueEmpty remaining (index + 1)
          else if queueEmpty then (EFI_STATUS_NOT_READY, memory)
          else
            match writeGuestU64 memory indexOut index with
            | none => (EFI_STATUS_INVALID_PARAMETER, memory)
            | some memory' => (EFI_STATUS_SUCCESS, memory')

/-- **`handleEfiWaitForEvent`.** Also `CheckEvent`, which differs in the call counter. -/
def handleEfiWaitForEvent (checkOnly : Bool) (g : EfiHandoffGlobals) (p : IA64ISAPlugin I) (memory : M) :
    UInt64 × IA64ISAPlugin I × M :=
  let counters :=
    if checkOnly then { p.counters with efiCheckEventCalls := p.counters.efiCheckEventCalls + 1 }
    else { p.counters with efiWaitForEventCalls := p.counters.efiWaitForEventCalls + 1 }
  let p := { p with counters := counters }
  let numberOfEvents := readCallerOutputRegister p.cpu 0
  let events := readCallerOutputRegister p.cpu 1
  let indexOut := readCallerOutputRegister p.cpu 2
  if numberOfEvents = 0 ∨ events = 0 ∨ indexOut = 0 ∨ numberOfEvents > 64 then
    (EFI_STATUS_INVALID_PARAMETER, p, memory)
  else
    let r := scanEvents g memory events indexOut p.services.efiInputQueue.isEmpty numberOfEvents.toNat 0
    (r.1, p, r.2)

/-- The end of a taken branch: there must be a bundle of guest memory, or one of the handoff region, to enter. -/
def finishBranch (g : EfiHandoffGlobals) (p : IA64ISAPlugin I) (memory : M) (branchTarget : UInt64) :
    ISAExecutionResult × IA64ISAPlugin I × M :=
  let branchEntryIP := normalizeBranchEntryIP g branchTarget
  let p := p.rememberBranchTarget branchEntryIP
  let memorySize := getTotalSize memory
  let branchIntoSyntheticEfi := branchEntryIP ≥ g.EFI_HANDOFF_REGION_BASE ∧ branchEntryIP < g.EFI_HANDOFF_REGION_END
  if memorySize ≠ 0 ∧ ¬ branchIntoSyntheticEfi ∧
      (branchEntryIP ≥ memorySize ∨ branchEntryIP + 16 > memorySize) then
    (.EXCEPTION, { p with state := { p.state with bundleValid := false }, cachedInstruction := none }, memory)
  else (.CONTINUE, p.enterBundle branchEntryIP, memory)

/-- `br.call dst = src`, for a caller that calls `WaitForEvent` or guest code: what is not the address of the
    stub is guest code, or a descriptor of it. -/
def callWaitForEvent (g : EfiHandoffGlobals) (p : IA64ISAPlugin I) (memory : M) (dst src : Fin 8) :
    ISAExecutionResult × IA64ISAPlugin I × M :=
  let branchTarget := p.cpu.getBR src
  let returnAddress := p.cpu.ip + 16
  if branchTarget = g.EFI_WAIT_FOR_EVENT_STUB_CODE_ADDR then
    let r := handleEfiWaitForEvent false g p memory
    finishBranch g (r.2.1.setCpu ((r.2.1.cpu.setBR dst returnAddress).setGR 8 r.1)) r.2.2 returnAddress
  else
    let called := p.renameForCall.resolveBranchTarget branchTarget
      (tryResolveIa64FunctionDescriptor memory branchTarget)
    finishBranch g (called.2.setCpu (called.2.cpu.setBR dst (architecturalInstructionPointer called.2.cpu + 16)))
      memory called.1

end WaitForEvent

/-! ## What can be done to a plugin -/

/-- A plugin with its own guest memory. -/
structure Instance (I M : Type) where
  plugin : IA64ISAPlugin I
  memory : M

/-- An EFI service: the status it returns, and what it does to the plugin and its memory. -/
abbrev EfiService (I M : Type) := EfiHandoffGlobals → IA64ISAPlugin I → M → UInt64 × IA64ISAPlugin I × M

inductive PluginOp (I M : Type) where
  | construct
  | reset
  | step
  | service (f : EfiService I M)
  | save
  | restore (data : List UInt8)

inductive PluginResult
  | done
  | stepped (result : ISAExecutionResult)
  | status (status : UInt64)
  | saved (data : List UInt8)
  | restored (success : Bool)
  deriving DecidableEq

/-- What an operation shows of its plugin: the result, and everything the plugin and its memory then hold. -/
structure Observation (I M : Type) where
  result : PluginResult
  after : Instance I M

section Operations
variable {I M : Type} [IMemory M]

/-- What a restore leaves, from what it made of the plugin. -/
def Instance.restored (a : Instance I M) (g : EfiHandoffGlobals) :
    Option (EfiHandoffGlobals × IA64ISAPlugin I) → EfiHandoffGlobals × Instance I M × Observation I M
  | none => (g, a, ⟨.restored false, a⟩)
  | some r => (r.1, ⟨r.2, a.memory⟩, ⟨.restored true, ⟨r.2, a.memory⟩⟩)

/-- An operation, in a process whose handoff variables are `g`. -/
def PluginOp.apply (decodeBundleAt : List UInt8 → UInt64 → Option (Bundle I)) (execute : Execute I M) :
    Apply EfiHandoffGlobals (Instance I M) (PluginOp I M) (Observation I M)
  | .construct, g, a =>
      let a' : Instance I M := ⟨.construct g, a.memory⟩
      (g, a', ⟨.done, a'⟩)
  | .reset, _, a =>
      let a' : Instance I M := ⟨IA64ISAPlugin.reset.2, a.memory⟩
      (IA64ISAPlugin.reset (I := I).1, a', ⟨.done, a'⟩)
  | .step, g, a =>
      let r := Isa.step decodeBundleAt execute ⟨g, a.plugin, a.memory⟩
      let a' : Instance I M := ⟨r.2.plugin, r.2.memory⟩
      (r.2.globals, a', ⟨.stepped r.1, a'⟩)
  | .service f, g, a =>
      let r := f g a.plugin a.memory
      let a' : Instance I M := ⟨r.2.1, r.2.2⟩
      (g, a', ⟨.status r.1, a'⟩)
  | .save, g, a => (g, a, ⟨.saved a.plugin.serializeCheckpointState, a⟩)
  | .restore data, g, a => a.restored g (a.plugin.deserializeCheckpointState g data)

/-- The operations that look at the process-wide addresses: a step only while the layout it decided stands. -/
def PluginOp.UsesHandoff : PluginOp I M → Instance I M → Prop
  | .construct, _ => True
  | .step, a => a.plugin.handoff.efiHandoffLayoutInitialized = true ∧
      getTotalSize a.memory = a.plugin.handoff.efiHandoffLayoutMemorySize
  | .service _, _ => True
  | .reset, _ | .save, _ | .restore _, _ => False

/-- A layout that has to be decided is decided from the memory size alone. -/
theorem ensureEfiHandoffLayout_congr {p : IA64ISAPlugin I} {memorySize : UInt64}
    (h : ¬ (p.handoff.efiHandoffLayoutInitialized = true ∧ memorySize = p.handoff.efiHandoffLayoutMemorySize))
    (g g' : EfiHandoffGlobals) :
    p.ensureEfiHandoffLayout memorySize g = p.ensureEfiHandoffLayout memorySize g' := by
  unfold IA64ISAPlugin.ensureEfiHandoffLayout
  rw [if_neg h, if_neg h]

variable (decodeBundleAt : List UInt8 → UInt64 → Option (Bundle I)) (execute : Execute I M)

/-- A step leaves the addresses as its layout decision did. -/
theorem globals_step (m : Machine I M) :
    (step decodeBundleAt execute m).2.globals =
      (m.plugin.ensureEfiHandoffLayout (getTotalSize m.memory) m.globals).1 := by
  unfold step
  dsimp only
  split <;> rfl

/-- A first step that finds a layout leaves it to every plugin of the process. -/
theorem shared_step {ι : Type} [DecidableEq ι] {s : System ι EfiHandoffGlobals (Instance I M) (Observation I M)}
    {j : ι} {base : UInt64} (hfirst : (s.parts j).plugin.handoff.efiHandoffLayoutInitialized = false)
    (hfits : tryComputeEfiHandoffLayout (getTotalSize (s.parts j).memory) = some base) :
    (s.step (PluginOp.apply decodeBundleAt execute) (j, .step)).shared = applyEfiHandoffLayoutBase base :=
  (globals_step decodeBundleAt execute _).trans
    (IA64ISAPlugin.globals_ensureEfiHandoffLayout hfirst hfits s.shared)

/-- A restore gives every process the same plugin. -/
theorem deserializeCheckpointState_congr (p : IA64ISAPlugin I) (data : List UInt8) (g g' : EfiHandoffGlobals) :
    (p.deserializeCheckpointState g data).map Prod.snd = (p.deserializeCheckpointState g' data).map Prod.snd := by
  unfold IA64ISAPlugin.deserializeCheckpointState
  split
  · rfl
  · rw [Option.map_map, Option.map_map]
    rfl

theorem blind_apply : Blind (PluginOp.apply decodeBundleAt execute) PluginOp.UsesHandoff := by
  intro op a hblind g g'
  cases op with
  | construct => exact absurd trivial hblind
  | service f => exact absurd trivial hblind
  | reset => rfl
  | save => rfl
  | step =>
      have hstep : step decodeBundleAt execute ⟨g, a.plugin, a.memory⟩ =
          step decodeBundleAt execute ⟨g', a.plugin, a.memory⟩ := by
        unfold step
        rw [ensureEfiHandoffLayout_congr hblind g g']
      show (_, _) = (_, _)
      rw [hstep]
  | restore data =>
      show (a.restored g _).2 = (a.restored g' _).2
      have hplugin := deserializeCheckpointState_congr a.plugin data g g'
      revert hplugin
      generalize a.plugin.deserializeCheckpointState g data = r
      generalize a.plugin.deserializeCheckpointState g' data = r'
      intro hplugin
      cases r with
      | none =>
          cases r' with
          | none => rfl
          | some r' => cases hplugin
      | some r =>
          cases r' with
          | none => cases hplugin
          | some r' =>
              obtain hp : r.2 = r'.2 := Option.some.inj hplugin
              show (_, _) = (_, _)
              rw [hp]

end Operations

/-! ## Isolation -/

/-- Plugins in one process, none of which has been used yet. -/
def process {ι I M : Type} (g : EfiHandoffGlobals) (instances : ι → Instance I M) :
    System ι EfiHandoffGlobals (Instance I M) (Observation I M) :=
  ⟨g, instances, fun _ => []⟩

/-- **Isolation.** In every interleaving of the operations of any plugins, a plugin which finds the handoff
    addresses as its own operations left them, whenever it looks at them, observes what it observes alone. -/
theorem isolation {ι I M : Type} [DecidableEq ι] [IMemory M]
    (decodeBundleAt : List UInt8 → UInt64 → Option (Bundle I)) (execute : Execute I M) (g : EfiHandoffGlobals)
    (instances : ι → Instance I M) (i : ι) (ops : List (ι × PluginOp I M))
    (hops : EveryStep (Watch.step (PluginOp.apply decodeBundleAt execute) i)
      (Watch.Undisturbed PluginOp.UsesHandoff i) ⟨process g instances, g⟩ ops) :
    (run (System.step (PluginOp.apply decodeBundleAt execute)) (process g instances) ops).observed i =
      (run (System.step (PluginOp.apply decodeBundleAt execute)) (process g instances)
        (operationsOf i ops)).observed i := by
  have hstart : Alone i ⟨process g instances, g⟩ (process g instances) := ⟨rfl, rfl, rfl⟩
  have halone := (isolated (blind_apply decodeBundleAt execute) hstart hops).observed
  rw [system_run] at halone
  exact halone.symm

/-! ## Two plugins -/

/-- The instructions of a guest that calls the firmware. -/
inductive CallerInstr
  | nop
  | brCall (dst src : Fin 8)

/-- `nop.m 0; br.call.sptk b0 = b6; nop.b 0`. -/
def callerBundle : List UInt8 := [0x12, 0, 0, 0, 1, 0, 0, 0x30, 0, 0x40, 8, 0, 0, 0, 0, 0x20]

/-- The decoder on `callerBundle`. -/
def decodeCaller (_ : List UInt8) (_ : UInt64) : Option (Bundle CallerInstr) :=
  some ⟨[.nop, .brCall 0 6, .nop], [false, false, false]⟩

def executeCaller : Execute CallerInstr FlatMemory := fun g p memory =>
  match p.cachedInstruction with
  | some (.brCall dst src) => callWaitForEvent g p memory dst src
  | _ => (.CONTINUE, p.retire, memory)

/-- A guest in 64 bytes of memory that waits for the console. It uses the addresses of the default layout, the
    only layout there is for so little memory: `b6` holds that of the stub, the event list, at 16, that of the
    console event. -/
def waiting : Instance CallerInstr FlatMemory where
  plugin := (IA64ISAPlugin.construct resetEfiHandoffLayoutGlobals).setCpu
    ((((CPUState.reset.setGR 32 1).setGR 33 16).setGR 34 24).setBR 6
      resetEfiHandoffLayoutGlobals.EFI_WAIT_FOR_EVENT_STUB_CODE_ADDR)
  memory := ⟨callerBundle ++ bytesOfWord 8 resetEfiHandoffLayoutGlobals.EFI_CONSOLE_INPUT_EVENT_ADDR ++
    List.replicate 40 0⟩

/-- A guest with a little over 4 MiB. -/
def larger : Instance CallerInstr FlatMemory where
  plugin := .construct resetEfiHandoffLayoutGlobals
  memory := ⟨callerBundle ++ List.replicate 0x400000 0⟩

theorem layout_larger : tryComputeEfiHandoffLayout (getTotalSize larger.memory) = some 0x1B0000 := by
  have hlength : larger.memory.data.length = 0x400010 := by
    show (callerBundle ++ List.replicate 0x400000 0).length = 0x400010
    rw [List.length_append, List.length_replicate]
    decide +kernel
  have hsize : getTotalSize larger.memory = 0x400010 := congrArg UInt64.ofNat hlength
  rw [hsize]
  decide +kernel

/-- The same guest twice: the layouts agree, so neither disturbs the other. -/
theorem isolation_same_layout :
    (run (System.step (PluginOp.apply decodeCaller executeCaller))
        (process resetEfiHandoffLayoutGlobals fun _ : Bool => waiting)
        [(true, .step), (false, .step), (true, .step)]).observed true =
      (run (System.step (PluginOp.apply decodeCaller executeCaller))
        (process resetEfiHandoffLayoutGlobals fun _ : Bool => waiting) [(true, .step), (true, .step)]).observed true := by
  refine isolation decodeCaller executeCaller resetEfiHandoffLayoutGlobals (fun _ => waiting) true
    [(true, .step), (false, .step), (true, .step)] ⟨fun _ _ => rfl, fun h => ?_, fun _ _ => ?_, trivial⟩
  · cases h
  · decide +kernel

/-- Two steps of one plugin, and between them the first step of another. -/
def interrupted : List (Bool × PluginOp CallerInstr FlatMemory) := [(true, .step), (false, .step), (true, .step)]

section Interrupted
variable (guest other : Instance CallerInstr FlatMemory)

abbrev runTwo (ops : List (Bool × PluginOp CallerInstr FlatMemory)) :
    System Bool EfiHandoffGlobals (Instance CallerInstr FlatMemory) (Observation CallerInstr FlatMemory) :=
  run (System.step (PluginOp.apply decodeCaller executeCaller))
    (process resetEfiHandoffLayoutGlobals fun b => if b then guest else other) ops

/-- The results of the guest's two steps, the second in a process with addresses `g`. -/
def twoSteps (g : EfiHandoffGlobals) : List PluginResult :=
  let first := step decodeCaller executeCaller ⟨resetEfiHandoffLayoutGlobals, guest.plugin, guest.memory⟩
  [.stepped first.1, .stepped (step decodeCaller executeCaller ⟨g, first.2.plugin, first.2.memory⟩).1]

variable {guest other}

/-- The guest takes its second step with the addresses the other plugin left. -/
theorem results_interrupted {base : UInt64} (hfirst : other.plugin.handoff.efiHandoffLayoutInitialized = false)
    (hfits : tryComputeEfiHandoffLayout (getTotalSize other.memory) = some base) :
    ((runTwo guest other interrupted).observed true).map (·.result) =
      twoSteps guest (applyEfiHandoffLayoutBase base) := by
  have hshared : (runTwo guest other [(true, .step), (false, .step)]).shared = applyEfiHandoffLayoutBase base :=
    shared_step decodeCaller executeCaller hfirst hfits
  show ((System.step _ (runTwo guest other [(true, .step), (false, .step)]) _).observed true).map _ = _
  rw [observed_step, hshared]
  rfl

end Interrupted

/-- **Not isolated.** Alone, the guest's call reaches `WaitForEvent`. Once the other plugin's layout has replaced
    the addresses the same call leads nowhere, and the guest dies. -/
theorem not_isolated :
    (runTwo waiting larger interrupted).observed true ≠
        (runTwo waiting larger (operationsOf true interrupted)).observed true ∧
      ((runTwo waiting larger interrupted).observed true).map (·.result) =
        [.stepped .CONTINUE, .stepped .EXCEPTION] ∧
      ((runTwo waiting larger (operationsOf true interrupted)).observed true).map (·.result) =
        [.stepped .CONTINUE, .stepped .CONTINUE] := by
  have hinterrupted : ((runTwo waiting larger interrupted).observed true).map (·.result) =
      [.stepped .CONTINUE, .stepped .EXCEPTION] := by
    rw [results_interrupted rfl layout_larger]
    decide +kernel
  have halone : ((runTwo waiting larger (operationsOf true interrupted)).observed true).map (·.result) =
      [.stepped .CONTINUE, .stepped .CONTINUE] := by
    decide +kernel
  refine ⟨?_, hinterrupted, halone⟩
  intro hsame
  rw [hsame, halone] at hinterrupted
  cases hinterrupted

end GuideXOS.Isa
