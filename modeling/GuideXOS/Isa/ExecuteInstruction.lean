import GuideXOS.Core.DataAccess
import GuideXOS.Core.Text
import GuideXOS.Decoder.Instruction
import GuideXOS.Isa.Resumption

/-!
# `ExecuteInstruction` — what the plugin adds to an instruction

`InstructionEx::Execute` is the meaning of an instruction: it sees the processor and the guest's memory.
`executeInstruction` wraps it. It keeps the history that the diagnostics print, sends the control-register moves to the
interrupt controller, turns a translation fault into an interruption, and passes any other exception on.

One load is repaired before it runs. The boot loader's `ld8 r20 = [r36]` at `0x1D70`, right after a call of
`HandleProtocol`, finds the address of the loaded-image protocol in its slot even if the slot holds zero
(`postSimpleFsLoadedImageLoad`). That store into guest memory is all the plugin adds to the other instructions.

* `Execute` is modelled up to the operations that are not eight-byte loads: those are a parameter (`ExecuteCases`).
* Register operands are seven-bit fields of the instruction word, predicate operands six-bit ones.
-/

namespace GuideXOS.Isa
open Lib Lib.Words GuideXOS.Core GuideXOS.Decoder

/-! ## `InstructionEx::Execute` -/

deriving instance DecidableEq for IA64TranslationFault

/-- How an execution ends: with nothing to report, with a fault for the guest, or with a host exception. -/
inductive ExecuteEnd
  | done
  | fault (f : IA64TranslationFault)
  | threw
  deriving DecidableEq

/-- The rest of the `switch` of **`Execute`**. -/
abbrev ExecuteCases (M : Type) := InstructionEx → CPUState → M → ExecuteEnd × CPUState × M

/-- **`IsCompareInstruction`.** -/
def IsCompareInstruction (type : InstructionType) : Bool :=
  [.CMP_EQ, .CMP_NE, .CMP_LT, .CMP_LE, .CMP_GT, .CMP_GE, .CMP_LTU, .CMP_LEU, .CMP_GTU, .CMP_GEU, .CMP4_EQ, .CMP4_NE,
    .CMP4_LT, .CMP4_LE, .CMP4_GT, .CMP4_GE, .CMP4_LTU, .CMP4_LEU, .CMP4_GTU, .CMP4_GEU].contains type

/-- A register operand. -/
def registerField (field : UInt8) : Fin 128 := Fin.ofNat 128 field.toNat

/-- A predicate operand. -/
def predicateField (field : UInt8) : Fin 64 := Fin.ofNat 64 field.toNat

section Execute
variable {M : Type} [IMemory M]

/-- The qualifying predicate, which the counted loop branches do without. -/
def qualifies (instr : InstructionEx) (cpu : CPUState) (ignorePredicate : Bool) : Bool :=
  ignorePredicate || [.BR_CLOOP, .BR_CTOP, .BR_CEXIT].contains instr.type ||
    instr.predicate == 0 || cpu.getPR (predicateField instr.predicate)

/-- What an instruction does whose predicate is false. -/
def nullify (instr : InstructionEx) (cpu : CPUState) : CPUState :=
  let cpu := if instr.compareCompleter = .UNC ∧ IsCompareInstruction instr.type = true then
    (cpu.setPR (predicateField instr.dst) false).setPR (predicateField instr.src3) false else cpu
  if instr.type = .FRCPA ∨ instr.type = .FRSQRTA then cpu.setPR (predicateField instr.predicate2) false else cpu

/-- **`LD8`** and `LD8_S`. -/
def executeLoad8 (instr : InstructionEx) (cpu : CPUState) (memory : M) : ExecuteEnd × CPUState :=
  let base := registerField instr.src1
  let baseAddress := cpu.getGR base
  match readData cpu memory baseAddress 8 with
  | (.error (.translation (.fault f)), cpu) => (.fault f, cpu)
  | (.error _, cpu) => (.threw, cpu)
  | (.ok bytes, cpu) =>
      let cpu := cpu.setGR (registerField instr.dst) (wordOfBytes bytes)
      if instr.hasImmediate then (.done, cpu.setGR base (baseAddress + instr.immediate))
      else if instr.src2 ≠ 0 then (.done, cpu.setGR base (baseAddress + cpu.getGR (registerField instr.src2)))
      else (.done, cpu)

/-- **`Execute`.** -/
def execute (cases : ExecuteCases M) (instr : InstructionEx) (cpu : CPUState) (memory : M) (ignorePredicate : Bool) :
    ExecuteEnd × CPUState × M :=
  if qualifies instr cpu ignorePredicate = false then (.done, nullify instr cpu, memory)
  else
    match instr.type with
    | .LD8 | .LD8_S =>
        let loaded := executeLoad8 instr cpu memory
        (loaded.1, loaded.2, memory)
    | _ => cases instr cpu memory

/-- A load leaves the guest's memory alone. -/
theorem execute_ld8_memory (cases : ExecuteCases M) {instr : InstructionEx} (h : instr.type = .LD8) (cpu : CPUState)
    (memory : M) (ignorePredicate : Bool) : (execute cases instr cpu memory ignorePredicate).2.2 = memory := by
  unfold execute
  split
  · rfl
  · rw [h]

end Execute

/-! ## The wrapper -/

namespace EfiHandoffGlobals

variable (g : EfiHandoffGlobals)

def EFI_RUNTIME_SERVICES_ADDR : UInt64 := g.EFI_HANDOFF_REGION_BASE + 0x400
def EFI_BOOT_SERVICES_ADDR : UInt64 := g.EFI_HANDOFF_REGION_BASE + 0x800
def EFI_POST_SIMPLEFS_OUT_WATCH_ADDR : UInt64 := g.EFI_HANDOFF_REGION_BASE + 0x193010

end EfiHandoffGlobals

/-- The switches of the diagnostics, and how they print an instruction. -/
structure DiagnosticSettings where
  instructionTrace : Bool := false
  bootPathTrace : Bool := false
  gpRelativeDataDiag : Bool := false
  getDisassembly : InstructionEx → ByteString := fun _ => []

def DiagnosticSettings.records (d : DiagnosticSettings) : Bool := d.instructionTrace || d.bootPathTrace

def handleProtocolCallName : ByteString := text "BootServices.HandleProtocol"

namespace IA64ISAPlugin
variable {I : Type} (p : IA64ISAPlugin I)

/-- **`recordRecentInstruction`.** Sixteen instructions are kept; six that repeat the six before are counted. -/
def recordRecentInstruction (disasm : ByteString) : IA64ISAPlugin I :=
  let entries := p.trace.recentInstructions ++ [⟨p.cpu.ip, UInt64.ofNat p.state.currentSlot, disasm⟩]
  let entries := if entries.length > 16 then entries.drop 1 else entries
  let repeated := (entries.drop (entries.length - 12)).take 6 = entries.drop (entries.length - 6)
  let count := p.trace.recentInstructionSequenceRepeatCount
  { p with trace := { p.trace with
    recentInstructions := entries
    recentInstructionSequenceRepeatCount :=
      if entries.length < 12 then count else if repeated then count + 1 else 0 } }

/-- **`recordTrackedRegisterWrite`**, for the registers of the translation walk. -/
def recordTrackedRegisterWrite (reg : UInt8) (disasm : ByteString) : IA64ISAPlugin I :=
  if [16, 17, 18, 19, 21, 22].contains reg then
    let writes := p.trace.recentTrackedRegisterWrites ++
      [⟨reg.toUInt64, p.cpu.getGR (registerField reg), p.cpu.ip, UInt64.ofNat p.state.currentSlot, disasm⟩]
    { p with trace := { p.trace with
      recentTrackedRegisterWrites := if writes.length > 16 then writes.drop 1 else writes } }
  else p

/-- A load of a service's field is remembered by its address. -/
def noteDescriptorField (g : EfiHandoffGlobals) (instr : InstructionEx) (p : IA64ISAPlugin I) : IA64ISAPlugin I :=
  let loadAddress := p.cpu.getGR (registerField instr.src1)
  if instr.type = .LD8 ∧
      ((g.EFI_RUNTIME_SERVICES_ADDR + 0x18 ≤ loadAddress ∧ loadAddress < g.EFI_RUNTIME_SERVICES_ADDR + 0x88) ∨
        (g.EFI_BOOT_SERVICES_ADDR + 0x18 ≤ loadAddress ∧ loadAddress < g.EFI_BOOT_SERVICES_ADDR + 0x180)) then
    { p with services := { p.services with lastEfiDescriptorFieldAddress := loadAddress } }
  else p

/-- The entry of `RegisterConfig` is reported once. -/
def reportRegisterConfigEntry (d : DiagnosticSettings) (p : IA64ISAPlugin I) : IA64ISAPlugin I :=
  if d.gpRelativeDataDiag ∧ p.trace.pendingRegisterConfigEntryArmed = true ∧
      p.cpu.ip = p.trace.pendingRegisterConfigEntryTarget then
    { p with trace := { p.trace with
      pendingRegisterConfigEntryArmed := false
      pendingRegisterConfigEntryTarget := 0
      pendingRegisterConfigEntryCallsite := 0 } }
  else p

/-- One instruction less is traced after `SimpleFS`. -/
def spendTraceBudget : IA64ISAPlugin I :=
  if p.trace.postSimpleFsTraceActive = true ∧ p.trace.postSimpleFsTraceBudget > 0 then
    { p with trace := { p.trace with
      postSimpleFsTraceBudget := p.trace.postSimpleFsTraceBudget - 1
      postSimpleFsTraceActive := p.trace.postSimpleFsTraceBudget - 1 ≠ 0 } }
  else p

variable {M : Type} [IMemory M] (d : DiagnosticSettings) (g : EfiHandoffGlobals)

/-- The load that is repaired. -/
def postSimpleFsLoadedImageLoad (g : EfiHandoffGlobals) (p : IA64ISAPlugin I) (memory : M) (instr : InstructionEx) :
    Prop :=
  p.cpu.ip = 0x1D70 ∧ p.state.currentSlot = 0 ∧ instr.type = .LD8 ∧ instr.dst = 20 ∧ instr.src1 = 36 ∧
    p.trace.lastEfiCallName = handleProtocolCallName ∧
    p.cpu.getGR 36 = g.EFI_POST_SIMPLEFS_OUT_WATCH_ADDR + 8 ∧ readGuestU64 memory (p.cpu.getGR 36) = some 0

instance (g : EfiHandoffGlobals) (p : IA64ISAPlugin I) (memory : M) (instr : InstructionEx) :
    Decidable (postSimpleFsLoadedImageLoad g p memory instr) := inferInstanceAs (Decidable (_ ∧ _))

/-- Memory with the loaded-image protocol in its slot. -/
def restoreLoadedImage (g : EfiHandoffGlobals) (p : IA64ISAPlugin I) (memory : M) : Except String M :=
  IMemory.write memory (p.cpu.getGR 36) (bytesOfWord 8 g.EFI_LOADED_IMAGE_PROTOCOL_ADDR)

/-- The memory the instruction runs on. -/
def repairedMemory (g : EfiHandoffGlobals) (p : IA64ISAPlugin I) (memory : M) (instr : InstructionEx) :
    Except String M :=
  if postSimpleFsLoadedImageLoad g p memory instr then p.restoreLoadedImage g memory else .ok memory

/-- The instruction itself: control registers are the interrupt controller's, the rest is `Execute`. -/
def dispatchInstruction (cases : ExecuteCases M) (p : IA64ISAPlugin I) (memory : M) (instr : InstructionEx)
    (ignorePredicate : Bool) : ExecuteEnd × IA64ISAPlugin I × M :=
  match instr.type with
  | .MOV_FROM_CR =>
      match p.readControlRegister instr.src1.toNat with
      | .ok (value, p) => (.done, p.setCpu (p.cpu.setGR (registerField instr.dst) value), memory)
      | .error _ => (.threw, p, memory)
  | .MOV_TO_CR =>
      match p.writeControlRegister instr.dst.toNat (p.cpu.getGR (registerField instr.src1)) with
      | .ok p => (.done, p, memory)
      | .error _ => (.threw, p, memory)
  | _ =>
      let ran := execute cases instr p.cpu memory ignorePredicate
      (ran.1, p.setCpu ran.2.1, ran.2.2)

/-- How a call of **`executeInstruction`** ends: `true` when the guest's fault handler was entered, or with the
    exception passed on. -/
inductive ExecuteInstructionEnd
  | returned (faulted : Bool)
  | threw
  deriving DecidableEq

/-- The plugin when the instruction is looked at. -/
def recorded (d : DiagnosticSettings) (g : EfiHandoffGlobals) (p : IA64ISAPlugin I) (instr : InstructionEx) :
    IA64ISAPlugin I :=
  noteDescriptorField g instr (if d.records then p.recordRecentInstruction (d.getDisassembly instr) else p)

/-- The handler of the other exceptions: it counts and passes on. -/
def countException : IA64ISAPlugin I :=
  { p with trace := { p.trace with recoveredLoadStoreCount := p.trace.recoveredLoadStoreCount + 1 } }

/-- What follows the instruction. -/
def finishInstruction (d : DiagnosticSettings) (instr : InstructionEx) :
    ExecuteEnd → IA64ISAPlugin I → ExecuteInstructionEnd × IA64ISAPlugin I
  | .done, p =>
      let p := if d.records then p.recordTrackedRegisterWrite instr.dst (d.getDisassembly instr) else p
      (.returned false, p.spendTraceBudget)
  | .fault f, p => (.returned true, p.enterTranslationFault f)
  | .threw, p => (.threw, p.countException)

/-- **`executeInstruction`.** -/
def executeInstruction (d : DiagnosticSettings) (cases : ExecuteCases M) (g : EfiHandoffGlobals) (p : IA64ISAPlugin I)
    (memory : M) (instr : InstructionEx) (ignorePredicate : Bool) : ExecuteInstructionEnd × IA64ISAPlugin I × M :=
  let p := recorded d g p instr
  match repairedMemory g p memory instr with
  | .error _ => (.threw, p.countException, memory)
  | .ok memory =>
      let ran := dispatchInstruction cases (reportRegisterConfigEntry d p) memory instr ignorePredicate
      let ended := finishInstruction d instr ran.1 ran.2.1
      (ended.1, ended.2, ran.2.2)

/-! ## The history is only history -/

@[simp] theorem recordRecentInstruction_state (disasm : ByteString) :
    (p.recordRecentInstruction disasm).state = p.state := rfl

@[simp] theorem recordTrackedRegisterWrite_state (reg : UInt8) (disasm : ByteString) :
    (p.recordTrackedRegisterWrite reg disasm).state = p.state := by
  unfold recordTrackedRegisterWrite
  split <;> rfl

@[simp] theorem noteDescriptorField_state (instr : InstructionEx) (p : IA64ISAPlugin I) :
    (noteDescriptorField g instr p).state = p.state := by
  unfold noteDescriptorField
  dsimp only
  split <;> rfl

@[simp] theorem reportRegisterConfigEntry_state (p : IA64ISAPlugin I) :
    (reportRegisterConfigEntry d p).state = p.state := by
  unfold reportRegisterConfigEntry
  split <;> rfl

@[simp] theorem spendTraceBudget_state : p.spendTraceBudget.state = p.state := by
  unfold spendTraceBudget
  split <;> rfl

@[simp] theorem recorded_state (p : IA64ISAPlugin I) (instr : InstructionEx) :
    (recorded d g p instr).state = p.state := by
  unfold recorded
  split <;> simp

theorem recorded_lastEfiCallName (p : IA64ISAPlugin I) (instr : InstructionEx) :
    (recorded d g p instr).trace.lastEfiCallName = p.trace.lastEfiCallName := by
  unfold recorded noteDescriptorField
  dsimp only
  split <;> split <;> rfl

/-- What is recorded does not decide the repair. -/
theorem repairedMemory_recorded (p : IA64ISAPlugin I) (memory : M) (instr : InstructionEx) :
    repairedMemory g (recorded d g p instr) memory instr = repairedMemory g p memory instr := by
  have hiff : postSimpleFsLoadedImageLoad g (recorded d g p instr) memory instr ↔
      postSimpleFsLoadedImageLoad g p memory instr := by
    unfold postSimpleFsLoadedImageLoad cpu
    rw [recorded_state, recorded_lastEfiCallName]
  have hstore : (recorded d g p instr).restoreLoadedImage g memory = p.restoreLoadedImage g memory := by
    unfold restoreLoadedImage cpu
    rw [recorded_state]
  unfold repairedMemory
  rw [hstore]
  exact if_congr hiff rfl rfl

/-! ## The call -/

section Call
variable (d : DiagnosticSettings) (cases : ExecuteCases M) {g : EfiHandoffGlobals} {p : IA64ISAPlugin I}
  {memory memory₁ : M} {instr : InstructionEx} (ignorePredicate : Bool)

theorem dispatchInstruction_of_not_cr (hfrom : instr.type ≠ .MOV_FROM_CR) (hto : instr.type ≠ .MOV_TO_CR) :
    dispatchInstruction cases p memory instr ignorePredicate =
      ((execute cases instr p.cpu memory ignorePredicate).1,
        p.setCpu (execute cases instr p.cpu memory ignorePredicate).2.1,
        (execute cases instr p.cpu memory ignorePredicate).2.2) := by
  unfold dispatchInstruction
  split
  · next h => exact absurd h hfrom
  · next h => exact absurd h hto
  · rfl

/-- On the repaired memory the instruction is `Execute`; the history is kept around it. -/
theorem executeInstruction_of_repaired (hfrom : instr.type ≠ .MOV_FROM_CR) (hto : instr.type ≠ .MOV_TO_CR)
    (hrepair : repairedMemory g p memory instr = .ok memory₁) :
    ∃ before : IA64ISAPlugin I, executeInstruction d cases g p memory instr ignorePredicate =
      let ran := execute cases instr p.cpu memory₁ ignorePredicate
      let ended := finishInstruction d instr ran.1 (before.setCpu ran.2.1)
      (ended.1, ended.2, ran.2.2) := by
  have hcpu : (reportRegisterConfigEntry d (recorded d g p instr)).cpu = p.cpu := by
    rw [cpu, reportRegisterConfigEntry_state, recorded_state]
  refine ⟨reportRegisterConfigEntry d (recorded d g p instr), ?_⟩
  unfold executeInstruction
  dsimp only
  rw [repairedMemory_recorded, hrepair]
  dsimp only
  rw [dispatchInstruction_of_not_cr cases ignorePredicate hfrom hto, hcpu]

omit [IMemory M] in
theorem finishInstruction_done (instr : InstructionEx) (p : IA64ISAPlugin I) :
    (finishInstruction d instr .done p).1 = .returned false ∧ (finishInstruction d instr .done p).2.cpu = p.cpu := by
  refine ⟨rfl, ?_⟩
  show (spendTraceBudget _).state.cpu = _
  rw [spendTraceBudget_state]
  split
  · rw [recordTrackedRegisterWrite_state]
  · rfl

/-- An instruction that ends without a fault ends as `Execute` does. -/
theorem executeInstruction_done (hfrom : instr.type ≠ .MOV_FROM_CR) (hto : instr.type ≠ .MOV_TO_CR)
    (hrepair : repairedMemory g p memory instr = .ok memory₁)
    (hdone : (execute cases instr p.cpu memory₁ ignorePredicate).1 = .done) :
    ∃ p', executeInstruction d cases g p memory instr ignorePredicate =
        (.returned false, p', (execute cases instr p.cpu memory₁ ignorePredicate).2.2) ∧
      p'.cpu = (execute cases instr p.cpu memory₁ ignorePredicate).2.1 := by
  obtain ⟨before, hcall⟩ := executeInstruction_of_repaired d cases ignorePredicate hfrom hto hrepair
  dsimp only at hcall
  rw [hdone] at hcall
  obtain ⟨hreturned, hcpu⟩ := finishInstruction_done d instr
    (before.setCpu (execute cases instr p.cpu memory₁ ignorePredicate).2.1)
  rw [hreturned] at hcall
  exact ⟨_, hcall, hcpu⟩

/-- A repair whose store fails passes the exception on. -/
theorem executeInstruction_repair_fails {what : String} (hrepair : repairedMemory g p memory instr = .error what) :
    (executeInstruction d cases g p memory instr ignorePredicate).1 = .threw := by
  unfold executeInstruction
  dsimp only
  rw [repairedMemory_recorded, hrepair]

/-- However a load ends, the guest's memory is the repaired one. -/
theorem executeInstruction_ld8_memory (hld8 : instr.type = .LD8)
    (hrepair : repairedMemory g p memory instr = .ok memory₁) :
    (executeInstruction d cases g p memory instr ignorePredicate).2.2 = memory₁ := by
  obtain ⟨before, hcall⟩ := executeInstruction_of_repaired d cases ignorePredicate (by simp [hld8]) (by simp [hld8])
    hrepair
  rw [hcall]
  exact execute_ld8_memory cases hld8 p.cpu memory₁ ignorePredicate

end Call

/-! ## The repair and nothing else -/

/-- The call ends as the instruction does, with the processor and the memory `Execute` leaves. -/
def AddsNothing (d : DiagnosticSettings) (cases : ExecuteCases M) (g : EfiHandoffGlobals) (p : IA64ISAPlugin I)
    (memory : M) (instr : InstructionEx) (ignorePredicate : Bool) : Prop :=
  ∃ p', executeInstruction d cases g p memory instr ignorePredicate =
      (.returned false, p', (execute cases instr p.cpu memory ignorePredicate).2.2) ∧
    p'.cpu = (execute cases instr p.cpu memory ignorePredicate).2.1

theorem addsNothing_iff (cases : ExecuteCases M) {g : EfiHandoffGlobals} {p : IA64ISAPlugin I} {memory : M}
    {instr : InstructionEx} (ignorePredicate : Bool) (hfrom : instr.type ≠ .MOV_FROM_CR)
    (hto : instr.type ≠ .MOV_TO_CR) (hdone : (execute cases instr p.cpu memory ignorePredicate).1 = .done) :
    AddsNothing d cases g p memory instr ignorePredicate ↔
      ¬ postSimpleFsLoadedImageLoad g p memory instr ∨ p.restoreLoadedImage g memory = .ok memory := by
  by_cases hload : postSimpleFsLoadedImageLoad g p memory instr
  · have hrepaired : repairedMemory g p memory instr = p.restoreLoadedImage g memory := if_pos hload
    have hld8 : instr.type = .LD8 := hload.2.2.1
    constructor
    · rintro ⟨p', hcall, -⟩
      right
      cases hstore : p.restoreLoadedImage g memory with
      | error what =>
          -- the store failed, and the call did not return
          have hthrew := executeInstruction_repair_fails d cases ignorePredicate (hrepaired.trans hstore)
          rw [hcall] at hthrew
          cases hthrew
      | ok memory₁ =>
          -- a load leaves memory alone, so what the call left is what the repair stored
          have hmemory := executeInstruction_ld8_memory d cases ignorePredicate hld8 (hrepaired.trans hstore)
          rw [hcall, execute_ld8_memory cases hld8] at hmemory
          rw [← hmemory]
    · rintro (hnot | hstore)
      · exact absurd hload hnot
      · exact executeInstruction_done d cases ignorePredicate hfrom hto (hrepaired.trans hstore) hdone
  · refine iff_of_true ?_ (.inl hload)
    exact executeInstruction_done d cases ignorePredicate hfrom hto (if_neg hload) hdone

end IA64ISAPlugin

open IA64ISAPlugin

/-- **One repair.** An instruction without a fault means what `Execute` says, whatever the plugin's history, the
    diagnostics and the address: exactly when the repaired load does not run, or its store changes nothing. The
    repaired load means what `Execute` says of the memory with the protocol's address in its slot. -/
theorem executeInstruction_oneRepair {I M : Type} [IMemory M] :
    ∀ (d : DiagnosticSettings) (cases : ExecuteCases M) (g : EfiHandoffGlobals) (p : IA64ISAPlugin I) (memory : M)
      (instr : InstructionEx) (ignorePredicate : Bool),
      instr.type ≠ .MOV_FROM_CR → instr.type ≠ .MOV_TO_CR →
      ((execute cases instr p.cpu memory ignorePredicate).1 = .done →
        (AddsNothing d cases g p memory instr ignorePredicate ↔
          ¬ postSimpleFsLoadedImageLoad g p memory instr ∨ p.restoreLoadedImage g memory = .ok memory)) ∧
      (postSimpleFsLoadedImageLoad g p memory instr → ∀ memory₁, p.restoreLoadedImage g memory = .ok memory₁ →
        (execute cases instr p.cpu memory₁ ignorePredicate).1 = .done →
        ∃ p', executeInstruction d cases g p memory instr ignorePredicate =
            (.returned false, p', (execute cases instr p.cpu memory₁ ignorePredicate).2.2) ∧
          p'.cpu = (execute cases instr p.cpu memory₁ ignorePredicate).2.1) := by
  intro d cases g p memory instr ignorePredicate hfrom hto
  constructor
  · intro hdone
    exact addsNothing_iff d cases ignorePredicate hfrom hto hdone
  · intro hload memory₁ hstore hdone
    have hrepaired : repairedMemory g p memory instr = .ok memory₁ := (if_pos hload).trans hstore
    exact executeInstruction_done d cases ignorePredicate hfrom hto hrepaired hdone

/-- The loader after its call of `HandleProtocol`, with the slot of the loaded image in `r36`. -/
def atLoadedImageLoad : IA64ISAPlugin Unit :=
  let p : IA64ISAPlugin Unit := construct resetEfiHandoffLayoutGlobals
  { p with
    state := { p.state with
      cpu := (p.cpu.setIP 0x1D70).setGR 36 (resetEfiHandoffLayoutGlobals.EFI_POST_SIMPLEFS_OUT_WATCH_ADDR + 8) }
    trace := { p.trace with lastEfiCallName := handleProtocolCallName } }

/-- `ld8 r20 = [r36]`. -/
def loadLoadedImage : InstructionEx := { type := .LD8, unit := .M_UNIT, dst := 20, src1 := 36 }

/-- Guest memory of 512 MiB that nothing was written to. -/
def untouchedMemory : SparseMemory := ⟨0x20000000, fun _ => 0⟩

/-- An instruction set of eight-byte loads. -/
def onlyLoads : ExecuteCases SparseMemory := fun _ cpu memory => (.done, cpu, memory)

theorem postSimpleFsLoadedImageLoad_atLoadedImageLoad :
    postSimpleFsLoadedImageLoad resetEfiHandoffLayoutGlobals atLoadedImageLoad untouchedMemory loadLoadedImage := by
  refine ⟨rfl, rfl, rfl, rfl, rfl, rfl, by decide +kernel, by decide +kernel⟩

/-- What the repair makes of the memory. -/
def restoredMemory : SparseMemory :=
  let address := atLoadedImageLoad.cpu.getGR 36
  let source := bytesOfWord 8 resetEfiHandoffLayoutGlobals.EFI_LOADED_IMAGE_PROTOCOL_ADDR
  { untouchedMemory with byte := fun x =>
      if address.toNat ≤ x ∧ x < address.toNat + source.length then source.getD (x - address.toNat) 0 else 0 }

/-- The same load a bundle later. -/
def pastLoadedImageLoad : IA64ISAPlugin Unit := atLoadedImageLoad.setCpu (atLoadedImageLoad.cpu.setIP 0x1D80)

theorem executeInstruction_oneRepair_loads :
    AddsNothing {} onlyLoads resetEfiHandoffLayoutGlobals pastLoadedImageLoad untouchedMemory loadLoadedImage true ∧
      ∃ p', executeInstruction {} onlyLoads resetEfiHandoffLayoutGlobals atLoadedImageLoad untouchedMemory
          loadLoadedImage true = (.returned false, p', restoredMemory) ∧
        p'.cpu.getGR 20 = resetEfiHandoffLayoutGlobals.EFI_LOADED_IMAGE_PROTOCOL_ADDR := by
  have hpast := executeInstruction_oneRepair {} onlyLoads resetEfiHandoffLayoutGlobals pastLoadedImageLoad
    untouchedMemory loadLoadedImage true (by decide) (by decide)
  have hat := executeInstruction_oneRepair {} onlyLoads resetEfiHandoffLayoutGlobals atLoadedImageLoad
    untouchedMemory loadLoadedImage true (by decide) (by decide)
  refine ⟨(hpast.1 (by decide +kernel)).mpr (.inl fun h => absurd h.1 (by decide +kernel)), ?_⟩
  have hstore : atLoadedImageLoad.restoreLoadedImage resetEfiHandoffLayoutGlobals untouchedMemory =
      .ok restoredMemory := by
    unfold restoreLoadedImage
    have hin : untouchedMemory.inBounds (atLoadedImageLoad.cpu.getGR 36)
        (bytesOfWord 8 resetEfiHandoffLayoutGlobals.EFI_LOADED_IMAGE_PROTOCOL_ADDR).length = true := by
      decide +kernel
    show SparseMemory.write _ _ _ = _
    rw [SparseMemory.write, if_pos hin]
    rfl
  obtain ⟨p', hcall, hcpu⟩ := hat.2 postSimpleFsLoadedImageLoad_atLoadedImageLoad _ hstore (by decide +kernel)
  refine ⟨p', hcall, ?_⟩
  rw [hcpu]
  decide +kernel

/-- **The address decides.** At `0x1D70` the load finds an address that nobody stored in its slot: the call leaves guest
    memory with the protocol's address in it, where `Execute` leaves a zero. -/
theorem repairedLoad_not_execute :
    (execute onlyLoads loadLoadedImage atLoadedImageLoad.cpu untouchedMemory true).1 = .done ∧
      ¬ AddsNothing {} onlyLoads resetEfiHandoffLayoutGlobals atLoadedImageLoad untouchedMemory loadLoadedImage true := by
  have hdone : (execute onlyLoads loadLoadedImage atLoadedImageLoad.cpu untouchedMemory true).1 = .done := by
    decide +kernel
  refine ⟨hdone, ?_⟩
  rw [addsNothing_iff {} onlyLoads true (by decide) (by decide) hdone]
  rintro (hnot | hsame)
  · exact hnot postSimpleFsLoadedImageLoad_atLoadedImageLoad
  · -- the second byte of the slot
    have hbyte := congrArg (fun r => r.toOption.map fun m => m.byte 0x1FF93019) hsame
    exact absurd hbyte (by decide +kernel)

end GuideXOS.Isa
