import GuideXOS.Core.Rotation
import GuideXOS.Isa.Step

/-!
# `Branches` — the branch instructions, from the decision to the next bundle

`execute` decides a branch by its type, then looks at sixteen bytes of guest memory where it goes: if they have the
shape of a function descriptor, it goes on to the code that one names, and `GR1` takes its global pointer. An indirect
call looks twice. A direct call through `b5` to a place at most `0x100` bytes back is taken for a counted loop.

* What the firmware does behind its entry points is a parameter (`Firmware`); which addresses are entry points is not.
* `follow` is the branch as the architecture has it: it does not see guest memory.
-/

namespace GuideXOS.Isa
open Lib Lib.Words GuideXOS.Core

/-! ## Firmware entry points -/

/-- The stubs of the handoff region, each with code and a function descriptor. -/
inductive EfiStub
  | OPEN_VOLUME | GET_VARIABLE | ALLOCATE_POOL | HANDLE_PROTOCOL | UNSUPPORTED | SUCCESS
  | TEXT_OUTPUT_STRING | TEXT_OUTPUT_QUERY_MODE
  | FILE_OPEN | FILE_CLOSE | FILE_READ | FILE_GET_POSITION | FILE_SET_POSITION | FILE_GET_INFO
  | LOCATE_HANDLE | LOCATE_PROTOCOL | GET_MEMORY_MAP | EXIT_BOOT_SERVICES | LOAD_IMAGE | START_IMAGE | SET_MEM
  | INPUT_RESET | INPUT_READ_KEY_STROKE | INPUT_READ_KEY_STROKE_EX
  | INPUT_REGISTER_KEY_NOTIFY | INPUT_UNREGISTER_KEY_NOTIFY | WAIT_FOR_EVENT | CHECK_EVENT
  deriving DecidableEq

namespace EfiStub

/-- In the order `efiDescriptorForCodePointer` asks for them. -/
def all : List EfiStub := [
  .OPEN_VOLUME, .GET_VARIABLE, .ALLOCATE_POOL, .HANDLE_PROTOCOL, .UNSUPPORTED, .SUCCESS,
  .TEXT_OUTPUT_STRING, .TEXT_OUTPUT_QUERY_MODE,
  .FILE_OPEN, .FILE_CLOSE, .FILE_READ, .FILE_GET_POSITION, .FILE_SET_POSITION, .FILE_GET_INFO,
  .LOCATE_HANDLE, .LOCATE_PROTOCOL, .GET_MEMORY_MAP, .EXIT_BOOT_SERVICES, .LOAD_IMAGE, .START_IMAGE, .SET_MEM,
  .INPUT_RESET, .INPUT_READ_KEY_STROKE, .INPUT_READ_KEY_STROKE_EX,
  .INPUT_REGISTER_KEY_NOTIFY, .INPUT_UNREGISTER_KEY_NOTIFY, .WAIT_FOR_EVENT, .CHECK_EVENT]

def codeOffset : EfiStub → UInt64
  | OPEN_VOLUME => 0xC80
  | GET_VARIABLE => 0xD80
  | ALLOCATE_POOL => 0xE00
  | HANDLE_PROTOCOL => 0xE80
  | UNSUPPORTED => 0xF00
  | SUCCESS => 0xF80
  | TEXT_OUTPUT_STRING => 0x1280
  | TEXT_OUTPUT_QUERY_MODE => 0x1F00
  | FILE_OPEN => 0x1400
  | FILE_CLOSE => 0x1480
  | FILE_READ => 0x1500
  | FILE_GET_POSITION => 0x1580
  | FILE_SET_POSITION => 0x1600
  | FILE_GET_INFO => 0x1680
  | LOCATE_HANDLE => 0x1700
  | LOCATE_PROTOCOL => 0x1780
  | GET_MEMORY_MAP => 0x1800
  | EXIT_BOOT_SERVICES => 0x1880
  | LOAD_IMAGE => 0x1900
  | START_IMAGE => 0x1980
  | SET_MEM => 0x1A00
  | INPUT_RESET => 0x1B00
  | INPUT_READ_KEY_STROKE => 0x1B80
  | INPUT_READ_KEY_STROKE_EX => 0x1C00
  | INPUT_REGISTER_KEY_NOTIFY => 0x1C80
  | INPUT_UNREGISTER_KEY_NOTIFY => 0x1CA0
  | WAIT_FOR_EVENT => 0x1D40
  | CHECK_EVENT => 0x1DC0

/-- The descriptor follows its code by `0x40` bytes. -/
def descOffset (s : EfiStub) : UInt64 := s.codeOffset + 0x40

theorem codeOffset_lt (s : EfiStub) : s.codeOffset < kEfiHandoffRegionSpan := by cases s <;> decide

end EfiStub

namespace EfiHandoffGlobals
variable (g : EfiHandoffGlobals)

def EFI_SAL_PROCEDURE_CODE_ADDR : UInt64 := g.EFI_HANDOFF_REGION_BASE + 0x2140
def EFI_PAL_PROCEDURE_CODE_ADDR : UInt64 := g.EFI_HANDOFF_REGION_BASE + 0x2180
def stubCode (s : EfiStub) : UInt64 := g.EFI_HANDOFF_REGION_BASE + s.codeOffset
def stubDesc (s : EfiStub) : UInt64 := g.EFI_HANDOFF_REGION_BASE + s.descOffset

/-- The stub whose code starts at an address. -/
def stubAt (target : UInt64) : Option EfiStub := EfiStub.all.find? fun s => target = g.stubCode s

/-- **`efiDescriptorForCodePointer`.** -/
def efiDescriptorForCodePointer (codePointer : UInt64) : UInt64 := ((g.stubAt codePointer).map g.stubDesc).getD 0

/-- An address of the handoff region, by its offset in it. -/
def InRegion (address : UInt64) : Prop := address - g.EFI_HANDOFF_REGION_BASE < kEfiHandoffRegionSpan

instance (address : UInt64) : Decidable (g.InRegion address) := inferInstanceAs (Decidable (_ < _))

/-- A branch target the firmware may serve: as it stands, or once normalized, it lies in the handoff region. -/
def IsFirmwareEntry (target : UInt64) : Prop := g.InRegion target ∨ g.InRegion (normalizeBranchEntryIP g target)

instance (target : UInt64) : Decidable (g.IsFirmwareEntry target) := inferInstanceAs (Decidable (_ ∨ _))

end EfiHandoffGlobals

section Entries
variable {M : Type _} [IMemory M]

/-- **`isZeroFilledEfiHandoffBundle`.** -/
def isZeroFilledEfiHandoffBundle (g : EfiHandoffGlobals) (memory : M) (target : UInt64) : Bool :=
  let entryIP := normalizeBranchEntryIP g target
  if entryIP < g.EFI_HANDOFF_REGION_BASE ∨ entryIP ≥ g.EFI_HANDOFF_REGION_END then false
  else
    match IMemory.read memory entryIP 16 with
    | .error _ => false
    | .ok bundle => bundle.all (· = 0)

/-- Who answers an indirect call that does not enter guest code. -/
inductive FirmwareEntry
  | sal
  | stub (s : EfiStub)
  | null
  | zeroFilled
  deriving DecidableEq

/-- Who answers an indirect call to `target`, in the order the dispatcher asks. -/
def firmwareEntry (g : EfiHandoffGlobals) (memory : M) (target : UInt64) : Option FirmwareEntry :=
  if normalizeBranchEntryIP g target = g.EFI_SAL_PROCEDURE_CODE_ADDR then some .sal
  else
    let called := g.stubAt target
    if called ≠ none ∧ called ≠ some .UNSUPPORTED then called.map .stub
    else if target = 0 then some .null
    else if isZeroFilledEfiHandoffBundle g memory target then some .zeroFilled
    else called.map .stub

end Entries

/-- What the firmware does once it is entered. -/
structure Firmware (I M : Type _) where
  /-- The PAL procedure, which a plain branch enters and which returns through `b0`. -/
  palProcedure : IA64ISAPlugin I → IA64ISAPlugin I
  /-- The service behind an entry point; the caller of it sets the return address. -/
  serve : EfiHandoffGlobals → FirmwareEntry → IA64ISAPlugin I → M → IA64ISAPlugin I × M

/-! ## The instructions -/

inductive BranchType
  | BR_COND | BR_CALL | BR_RET | BR_CLOOP | BR_CTOP | BR_CEXIT
  deriving DecidableEq

structure BranchInstruction where
  type : BranchType
  predicate : Fin 64 := 0
  dst : Fin 8 := 0
  src1 : Fin 8 := 0
  branchTarget : Option UInt64 := none
  deriving DecidableEq

namespace BranchInstruction

variable (instr : BranchInstruction)

def livePredicateTrue (cpu : CPUState) : Bool :=
  instr.predicate = 0 || cpu.getPR instr.predicate

/-- The encoded target, or the branch register named instead. -/
def source (cpu : CPUState) : UInt64 := instr.branchTarget.getD (cpu.getBR instr.src1)

/-- **`callLooksLikeCountedLoop`**: a short backward `br.call b5`. -/
def callLooksLikeCountedLoop (currentIP : UInt64) : Bool :=
  match instr.branchTarget with
  | none => false
  | some target => instr.type = .BR_CALL && instr.dst = 5 && target ≤ currentIP && currentIP - target ≤ 0x100

def IsIndirectCall : Prop := instr.type = .BR_CALL ∧ instr.branchTarget = none

instance (instr : BranchInstruction) : Decidable instr.IsIndirectCall := inferInstanceAs (Decidable (_ ∧ _))

/-- The target of a branch that the architecture takes. -/
def takenTarget (cpu : CPUState) : Option UInt64 :=
  match instr.type with
  | .BR_COND | .BR_CALL => if instr.livePredicateTrue cpu then some (instr.source cpu) else none
  | .BR_RET => if instr.livePredicateTrue cpu then some (cpu.getBR instr.src1) else none
  | .BR_CLOOP => if instr.livePredicateTrue cpu && cpu.getAR 65 != 0 then instr.branchTarget else none
  | .BR_CTOP => if (cpu.executeModuloLoopStage false).1 then instr.branchTarget else none
  | .BR_CEXIT => if (cpu.executeModuloLoopStage true).1 then instr.branchTarget else none

end BranchInstruction

namespace IA64ISAPlugin
variable {I M : Type _} [IMemory M] (g : EfiHandoffGlobals) (firmware : Firmware I M) (instr : BranchInstruction)
  (p : IA64ISAPlugin I) (memory : M)

/-! ## The decision -/

/-- What the `switch` over the branch types decides. -/
structure Decision (I M : Type _) where
  /-- Where the branch goes, if it is taken. -/
  branchTarget : Option UInt64
  handledFirmwareCallStub : Bool := false
  plugin : IA64ISAPlugin I
  memory : M

/-- **`BR_COND`.** The PAL procedure is entered by a plain branch; one thunk of the loader links through `b0`. -/
def decideCond : Decision I M :=
  if instr.livePredicateTrue p.cpu then
    let currentIP := p.cpu.ip
    let source := instr.source p.cpu
    let entersPal := normalizeBranchEntryIP g source = g.EFI_PAL_PROCEDURE_CODE_ADDR
    let p := if entersPal then firmware.palProcedure p else p
    let branchTarget := if entersPal then p.cpu.getBR 0 else source
    let links := instr.branchTarget = none ∧ instr.src1 = 6 ∧ currentIP ≥ 0x1900 ∧ currentIP < 0x1A00 ∧
      branchTarget ≥ g.EFI_HANDOFF_REGION_BASE ∧ branchTarget < g.EFI_HANDOFF_REGION_BASE + 0x1000
    let p := if links then p.setCpu (p.cpu.setBR 0 (currentIP + 16)) else p
    { branchTarget := some branchTarget, handledFirmwareCallStub := entersPal, plugin := p, memory := memory }
  else { branchTarget := none, plugin := p, memory := memory }

/-- The descriptor behind an indirect call, and the target it leaves: a descriptor at the target names the code, one
    known for a stub only the global pointer. -/
def calledDescriptor (target : UInt64) : Option (UInt64 × FunctionDescriptor) :=
  match tryResolveIa64FunctionDescriptor memory target with
  | some d => some (target, d)
  | none =>
      let known := g.efiDescriptorForCodePointer target
      if known = 0 then none
      else
        match readGuestU64 memory known, readGuestU64 memory (known + 8) with
        | some _, some descriptorGp => some (known, ⟨target, descriptorGp⟩)
        | _, _ => none

/-- The target of an indirect call, resolved, and the plugin with the callee's global pointer. -/
def resolveIndirectCall (target : UInt64) : UInt64 × IA64ISAPlugin I :=
  let called := calledDescriptor g memory target
  let branchTarget := (called.map (·.2.codePointer)).getD target
  let descriptorGp := (called.map (·.2.descriptorGp)).getD 0
  let switchesGp := descriptorGp ≠ 0 ∧ descriptorGp ≠ p.cpu.getGR 1
  let suspicious := called ≠ none ∧ descriptorGp ≥ getTotalSize memory ∧ descriptorGp < g.EFI_HANDOFF_REGION_BASE
  let unknownRegion := ¬ (branchTarget ≥ g.EFI_HANDOFF_REGION_BASE ∧ branchTarget < g.EFI_HANDOFF_REGION_END) ∧
    branchTarget ≥ getTotalSize memory
  let cpu := if switchesGp then p.cpu.setGR 1 descriptorGp else p.cpu
  (branchTarget, { p.setCpu cpu with trace := { p.trace with
    descriptorCallCount := p.trace.descriptorCallCount + 1
    gpSwitchCount := if switchesGp then p.trace.gpSwitchCount + 1 else p.trace.gpSwitchCount
    suspiciousGpCount := if suspicious then p.trace.suspiciousGpCount + 1 else p.trace.suspiciousGpCount
    unknownRegionCallCount :=
      if unknownRegion then p.trace.unknownRegionCallCount + 1 else p.trace.unknownRegionCallCount
    lastDescriptorAddress := ((called.map (·.1)).getD
      (if g.efiDescriptorForCodePointer target ≠ 0 then g.efiDescriptorForCodePointer target else target))
    lastDescriptorCode := branchTarget
    lastDescriptorGp := descriptorGp } })

/-- **`BR_CALL`** that does not look like a counted loop. A call the firmware answers returns behind itself. -/
def decideCall : Decision I M :=
  if instr.livePredicateTrue p.cpu then
    match instr.branchTarget with
    | some target => { branchTarget := some target, plugin := p.renameForCall, memory := memory }
    | none =>
        let (target, p) := p.resolveIndirectCall g memory (p.cpu.getBR instr.src1)
        match firmwareEntry g memory target with
        | none => { branchTarget := some target, plugin := p.renameForCall, memory := memory }
        | some entry =>
            let returnAddress := p.cpu.ip + 16
            let (p, memory) := match entry with
              | .null | .zeroFilled => (p.setCpu (p.cpu.setGR 8 EFI_STATUS_SUCCESS), memory)
              | entry => firmware.serve g entry p memory
            { branchTarget := some returnAddress, handledFirmwareCallStub := true
              plugin := p.setCpu (p.cpu.setBR instr.dst returnAddress), memory := memory }
  else { branchTarget := none, plugin := p, memory := memory }

/-- The `switch` over the branch types. The modulo-scheduled loops turn their registers here. -/
def decideBranch : Decision I M :=
  match instr.type with
  | .BR_COND => p.decideCond g firmware instr memory
  | .BR_CALL =>
      if instr.callLooksLikeCountedLoop p.cpu.ip then
        { branchTarget := if instr.livePredicateTrue p.cpu && p.cpu.getAR 65 != 0 then instr.branchTarget else none
          plugin := p, memory := memory }
      else p.decideCall g firmware instr memory
  | .BR_RET | .BR_CLOOP => { branchTarget := instr.takenTarget p.cpu, plugin := p, memory := memory }
  | .BR_CTOP =>
      { branchTarget := instr.takenTarget p.cpu, plugin := p.setCpu (p.cpu.executeModuloLoopStage false).2
        memory := memory }
  | .BR_CEXIT =>
      { branchTarget := instr.takenTarget p.cpu, plugin := p.setCpu (p.cpu.executeModuloLoopStage true).2
        memory := memory }

/-! ## Execution -/

/-- What `executeInstruction` does for a branch type. -/
def executeBranchRegisters (cpu : CPUState) : CPUState :=
  match instr.type with
  | .BR_CALL => cpu.setBR instr.dst (architecturalInstructionPointer cpu + 16)
  | .BR_CLOOP => if cpu.getAR 65 ≠ 0 then cpu.setAR 65 (cpu.getAR 65 - 1) else cpu
  | _ => cpu

/-- The register effects after the decision. -/
def applyBranch (currentIP : UInt64) (livePredicateTrue handledFirmwareCallStub : Bool) (cpu : CPUState) : CPUState :=
  if instr.type = .BR_CTOP ∨ instr.type = .BR_CEXIT then cpu
  else if ¬ livePredicateTrue then cpu
  else if instr.callLooksLikeCountedLoop currentIP then
    if cpu.getAR 65 ≠ 0 then cpu.setAR 65 (cpu.getAR 65 - 1) else cpu
  else if handledFirmwareCallStub then cpu
  else executeBranchRegisters instr cpu

/-- A stop of the machine in a branch: the bundle is dropped with the instruction. -/
def abandonBranch : IA64ISAPlugin I :=
  { p with state := { p.state with bundleValid := false }, cachedInstruction := none }

/-- The bundle at `entry` lies in guest memory, or in the handoff region, or the memory reports no size. -/
def InGuestMemory (entry : UInt64) : Prop :=
  getTotalSize memory = 0 ∨ (entry ≥ g.EFI_HANDOFF_REGION_BASE ∧ entry < g.EFI_HANDOFF_REGION_END) ∨
    (entry < getTotalSize memory ∧ entry + 16 ≤ getTotalSize memory)

instance (g : EfiHandoffGlobals) (memory : M) (entry : UInt64) : Decidable (InGuestMemory g memory entry) :=
  inferInstanceAs (Decidable (_ ∨ _))

/-- The end of a taken branch. -/
def enterTarget (branchTarget : UInt64) : ISAExecutionResult × IA64ISAPlugin I :=
  if instr.type = .BR_RET ∧ branchTarget = 0 then (.HALT, p.abandonBranch)
  else
    let branchEntryIP := normalizeBranchEntryIP g branchTarget
    let p := if instr.type = .BR_RET then p.restoreCallFrame branchEntryIP else p
    let p := p.rememberBranchTarget branchEntryIP
    if InGuestMemory g memory branchEntryIP then (.CONTINUE, p.enterBundle branchEntryIP)
    else (.EXCEPTION, p.abandonBranch)

/-- **`execute`** for the branch types. -/
def executeBranch : ISAExecutionResult × IA64ISAPlugin I × M :=
  let currentIP := p.cpu.ip
  let r38BeforeBranch := p.cpu.getGR 38
  let livePredicateTrue := instr.livePredicateTrue p.cpu
  let d := p.decideBranch g firmware instr memory
  let (branchTarget, p) := match d.branchTarget with
    | none => (none, d.plugin)
    | some target =>
        let resolved := d.plugin.resolveBranchTarget target (tryResolveIa64FunctionDescriptor d.memory target)
        (some resolved.1, resolved.2)
  let p := if d.handledFirmwareCallStub ∧ instr.type = .BR_CALL then p.setCpu (p.cpu.setGR 38 r38BeforeBranch) else p
  let p := p.setCpu (applyBranch instr currentIP livePredicateTrue d.handledFirmwareCallStub p.cpu)
  match branchTarget with
  | none => (.CONTINUE, p.retire, d.memory)
  | some target =>
      let entered := p.enterTarget g instr d.memory target
      (entered.1, entered.2, d.memory)

end IA64ISAPlugin

end GuideXOS.Isa
