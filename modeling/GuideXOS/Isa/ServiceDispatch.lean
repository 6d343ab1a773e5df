import GuideXOS.Isa.ControlFlow
import GuideXOS.Isa.ExecuteInstruction
import GuideXOS.Isa.Protocols

/-!
# `ServiceDispatch` — which firmware service an indirect call runs

The boot and runtime services tables hold one function pointer for each service, but most slots share two stubs,
`SUCCESS` and `UNSUPPORTED`. Who calls one of these is told apart by what the guest has left behind: the field of the
last `ld8` from a table, the registers `r9` and `r37`, and two addresses of the boot loader.

* A guest may keep the pointers it has read and call them in any order from anywhere: between two steps the processor and
  guest memory may change in any way.
* The services with a stub of their own are a parameter (`Firmware`).
* `SetMem` has a stub of its own in one of the two places that fill the tables.
-/

namespace GuideXOS.Isa
open Lib Lib.Words Lib.Runs GuideXOS.Core GuideXOS.Decoder

/-! ## The tables -/

inductive EfiBootServiceKind
  | Unknown | RaiseTPL | RestoreTPL | AllocatePages | FreePages | GetMemoryMap | AllocatePool | FreePool
  | InstallProtocolInterface | CopyMem
  deriving DecidableEq

/-- The services that are known by their offset in the boot services table. -/
def bootServiceKinds : List (UInt64 × EfiBootServiceKind) := [
  (0x18, .RaiseTPL), (0x20, .RestoreTPL), (0x28, .AllocatePages), (0x30, .FreePages), (0x38, .GetMemoryMap),
  (0x40, .AllocatePool), (0x48, .FreePool), (0x80, .InstallProtocolInterface), (0x160, .CopyMem)]

namespace EfiHandoffGlobals
variable (g : EfiHandoffGlobals)

def isEfiBootServicesFieldAddress (address : UInt64) : Bool :=
  address ≥ g.EFI_BOOT_SERVICES_ADDR + 0x18 && address < g.EFI_BOOT_SERVICES_ADDR + 0x180 &&
    (address - g.EFI_BOOT_SERVICES_ADDR) &&& 7 == 0

def efiBootServiceKindForField (address : UInt64) : EfiBootServiceKind :=
  if g.isEfiBootServicesFieldAddress address then
    (bootServiceKinds.lookup (address - g.EFI_BOOT_SERVICES_ADDR)).getD .Unknown
  else .Unknown

end EfiHandoffGlobals

/-- The slots of the two tables. -/
inductive EfiTableSlot
  | runtimeServices (index : Fin 14)
  | bootServices (index : Fin 45)
  deriving DecidableEq

namespace EfiTableSlot

def offset : EfiTableSlot → UInt64
  | runtimeServices index => 0x18 + 8 * UInt64.ofNat index
  | bootServices index => 0x18 + 8 * UInt64.ofNat index

def address (g : EfiHandoffGlobals) (slot : EfiTableSlot) : UInt64 :=
  match slot with
  | runtimeServices _ => g.EFI_RUNTIME_SERVICES_ADDR + slot.offset
  | bootServices _ => g.EFI_BOOT_SERVICES_ADDR + slot.offset

def kind (slot : EfiTableSlot) : EfiBootServiceKind :=
  match slot with
  | runtimeServices _ => .Unknown
  | bootServices _ => (bootServiceKinds.lookup slot.offset).getD .Unknown

end EfiTableSlot

/-- The boot services that do not get the `UNSUPPORTED` stub. -/
def bootServiceStubs (publishesSetMem : Bool) : List (UInt64 × EfiStub) :=
  [(0x38, .GET_MEMORY_MAP), (0x40, .ALLOCATE_POOL), (0x48, .SUCCESS), (0x98, .HANDLE_PROTOCOL),
    (0x118, .HANDLE_PROTOCOL), (0xB0, .LOCATE_HANDLE), (0x138, .LOCATE_HANDLE), (0xC8, .LOAD_IMAGE),
    (0xD0, .START_IMAGE), (0xE8, .EXIT_BOOT_SERVICES), (0x100, .SUCCESS), (0x140, .LOCATE_PROTOCOL),
    (0x60, .WAIT_FOR_EVENT), (0x78, .CHECK_EVENT)] ++
  if publishesSetMem then [(0x168, .SET_MEM)] else []

/-- The stub whose descriptor a slot holds. -/
def EfiTableSlot.stub (publishesSetMem : Bool) (slot : EfiTableSlot) : EfiStub :=
  match slot with
  | runtimeServices _ => if slot.offset = 0x48 then .GET_VARIABLE else .UNSUPPORTED
  | bootServices _ => ((bootServiceStubs publishesSetMem).lookup slot.offset).getD .UNSUPPORTED

/-! ## The services -/

/-- What a call can run. -/
inductive TableService
  /-- The service of a stub of its own. -/
  | ofStub (s : EfiStub)
  | FreePool
  | GenericSuccess
  | AllocatePages
  | RaiseTPL
  | RestoreTPL
  | InstallProtocolInterface
  | Unsupported
  deriving DecidableEq

/-- The service behind the `UNSUPPORTED` stub that a kind of boot service means. -/
def EfiBootServiceKind.unsupportedService : EfiBootServiceKind → TableService
  | AllocatePages => .AllocatePages
  | RaiseTPL => .RaiseTPL
  | RestoreTPL => .RestoreTPL
  | InstallProtocolInterface => .InstallProtocolInterface
  | _ => .Unsupported

/-- **The service that belongs to a slot.** -/
def EfiTableSlot.service (publishesSetMem : Bool) (slot : EfiTableSlot) : TableService :=
  match slot.stub publishesSetMem with
  | .SUCCESS => if slot.kind = .FreePool then .FreePool else .GenericSuccess
  | .UNSUPPORTED => slot.kind.unsupportedService
  | s => .ofStub s

namespace IA64ISAPlugin
variable {I M : Type} [IMemory M] (g : EfiHandoffGlobals)

/-! ## The dispatcher -/

variable (p : IA64ISAPlugin I)

/-- The field that tells the services behind the `UNSUPPORTED` stub apart: the one loaded last, else the one that `r37`
    happens to hold. -/
def dispatchField : UInt64 :=
  let tableSlotCandidate := p.cpu.getGR 37
  if g.isEfiBootServicesFieldAddress p.services.lastEfiDescriptorFieldAddress then
    p.services.lastEfiDescriptorFieldAddress
  else if g.isEfiBootServicesFieldAddress tableSlotCandidate then tableSlotCandidate
  else 0

def dispatchKind : EfiBootServiceKind :=
  g.efiBootServiceKindForField (p.dispatchField g)

/-- The service behind the `UNSUPPORTED` stub, in the order the dispatcher asks. -/
def unsupportedChoice (dispatchKind : EfiBootServiceKind) (currentIP : UInt64) : TableService :=
  if dispatchKind = .AllocatePages then .AllocatePages
  else if dispatchKind = .RaiseTPL then .RaiseTPL
  else if dispatchKind = .RestoreTPL ∨ currentIP = 0x2E620 then .RestoreTPL
  else if dispatchKind = .InstallProtocolInterface ∨ currentIP = 0x2E480 then .InstallProtocolInterface
  else .Unsupported

/-- `freePoolCall`. -/
def FreePoolCall : Prop :=
  g.efiBootServiceKindForField p.services.lastEfiDescriptorFieldAddress = .FreePool ∨
    p.cpu.getGR 9 = g.EFI_BOOT_SERVICES_ADDR + 0x48

instance (g : EfiHandoffGlobals) (p : IA64ISAPlugin I) : Decidable (p.FreePoolCall g) :=
  inferInstanceAs (Decidable (_ ∨ _))

/-- The service that the code at a stub's address runs. -/
def stubService : EfiStub → TableService
  | .SUCCESS => if p.FreePoolCall g then .FreePool else .GenericSuccess
  | .UNSUPPORTED => unsupportedChoice (p.dispatchKind g) p.cpu.ip
  | s => .ofStub s

/-- A plugin whose call returns a status. -/
def returnStatus (status : UInt64) : IA64ISAPlugin I := p.setCpu (p.cpu.setGR 8 status)

def setTpl (tpl : UInt64) : IA64ISAPlugin I :=
  { p with services := { p.services with efiCurrentTpl := tpl } }

/-- A service that nobody offers is counted by its kind. -/
def countUnsupported (dispatchKind : EfiBootServiceKind) (p : IA64ISAPlugin I) : IA64ISAPlugin I :=
  { p with counters := { p.counters with
    efiGenericUnsupportedCalls := p.counters.efiGenericUnsupportedCalls + 1
    efiFreePagesCalls :=
      if dispatchKind = .FreePages then p.counters.efiFreePagesCalls + 1 else p.counters.efiFreePagesCalls
    efiCopyMemCalls :=
      if dispatchKind = .CopyMem then p.counters.efiCopyMemCalls + 1 else p.counters.efiCopyMemCalls } }

/-- What a service does. -/
def performService (firmware : Firmware I M) (g : EfiHandoffGlobals) (p : IA64ISAPlugin I) (memory : M) :
    TableService → IA64ISAPlugin I × M
  | .ofStub s => firmware.serve g (.stub s) p memory
  | .FreePool =>
      let (status, p) := handleEfiFreePool g p memory
      (p.returnStatus status, memory)
  | .GenericSuccess =>
      let p := { p with counters := { p.counters with
        efiGenericSuccessCalls := p.counters.efiGenericSuccessCalls + 1 } }
      (p.returnStatus EFI_STATUS_SUCCESS, memory)
  | .AllocatePages =>
      let (status, p, memory) := handleEfiAllocatePages g p memory
      (p.returnStatus status, memory)
  | .RaiseTPL =>
      let previousTpl := p.services.efiCurrentTpl
      ((p.setTpl (readCallerOutputRegister p.cpu 0)).returnStatus previousTpl, memory)
  | .RestoreTPL => (p.setTpl (readCallerOutputRegister p.cpu 0), memory)
  | .InstallProtocolInterface =>
      let (status, p, memory) := handleEfiInstallProtocolInterface p memory
      (p.returnStatus status, memory)
  | .Unsupported => ((p.countUnsupported (p.dispatchKind g)).returnStatus EFI_STATUS_UNSUPPORTED, memory)

/-- The firmware with its two shared stubs. -/
def dispatched (firmware : Firmware I M) : Firmware I M where
  palProcedure := firmware.palProcedure
  serve g entry p memory :=
    match entry with
    | .stub s => p.performService firmware g memory (p.stubService g s)
    | entry => firmware.serve g entry p memory

end IA64ISAPlugin

/-! ## Runs -/

variable {I M : Type} [IMemory M] (p : IA64ISAPlugin Unit)

/-- A call of the pointer that the guest has read from a slot, with the processor and the memory it finds. -/
structure ServiceCall (M : Type) where
  slot : EfiTableSlot
  instr : BranchInstruction
  cpu : CPUState
  memory : M

/-- The branch register that the call goes through. -/
def ServiceCall.source (call : ServiceCall M) : UInt64 := call.cpu.getBR call.instr.src1

/-- A step of the guest: an instruction that is not a branch, or a call of a service. -/
inductive GuestStep (M : Type)
  | instruction (instr : InstructionEx) (cpu : CPUState) (memory : M) (ignorePredicate : Bool)
  | serviceCall (call : ServiceCall M)

/-- The plugin after a step. -/
def GuestStep.apply (d : DiagnosticSettings) (cases : ExecuteCases M) (firmware : Firmware I M) (g : EfiHandoffGlobals)
    (p : IA64ISAPlugin I) : GuestStep M → IA64ISAPlugin I
  | .instruction instr cpu memory ignorePredicate =>
      ((p.setCpu cpu).executeInstruction d cases g memory instr ignorePredicate).2.1
  | .serviceCall call =>
      ((p.setCpu call.cpu).executeBranch g (IA64ISAPlugin.dispatched firmware) call.instr call.memory).2.1

namespace ServiceCall
variable {I M : Type} [IMemory M]

/-- The call goes through the pointer of its slot: an indirect call that reaches the code of the slot's stub. -/
structure ThroughSlot (g : EfiHandoffGlobals) (publishesSetMem : Bool) (p : IA64ISAPlugin I) (call : ServiceCall M) :
    Prop where
  indirect : call.instr.IsIndirectCall
  live : call.instr.livePredicateTrue call.cpu = true
  target : ((p.setCpu call.cpu).resolveIndirectCall g call.memory call.source).1 =
    g.stubCode (call.slot.stub publishesSetMem)

/-- The service that the dispatcher runs for a call, if it runs one. -/
def chosenService (g : EfiHandoffGlobals) (p : IA64ISAPlugin I) (call : ServiceCall M) : Option TableService :=
  let (target, p) := (p.setCpu call.cpu).resolveIndirectCall g call.memory call.source
  match firmwareEntry g call.memory target with
  | some (.stub s) => some (p.stubService g s)
  | _ => none

/-- **The call runs the service of its slot**: that one is chosen, and the call does what it does and returns behind
    itself. -/
structure RunsSlot (firmware : Firmware I M) (g : EfiHandoffGlobals) (publishesSetMem : Bool) (p : IA64ISAPlugin I)
    (call : ServiceCall M) : Prop where
  chosen : chosenService g p call = some (call.slot.service publishesSetMem)
  performed : (p.setCpu call.cpu).decideBranch g (IA64ISAPlugin.dispatched firmware) call.instr call.memory =
    let resolved := ((p.setCpu call.cpu).resolveIndirectCall g call.memory call.source).2
    let (p, memory) := resolved.performService firmware g call.memory (call.slot.service publishesSetMem)
    { branchTarget := some (call.cpu.ip + 16), handledFirmwareCallStub := true
      plugin := p.setCpu (p.cpu.setBR call.instr.dst (call.cpu.ip + 16)), memory := memory }

/-! ## What the guest has left behind -/

/-- The kind of field that the call seems to come from: of the field loaded last, else of the one in `r37`. -/
def seenKind (g : EfiHandoffGlobals) (p : IA64ISAPlugin I) (call : ServiceCall M) : EfiBootServiceKind :=
  (p.setCpu call.cpu).dispatchKind g

/-- **The traces name the slot.** For a stub of its own there is nothing to ask. A call of `SUCCESS` is taken for
    `FreePool` after a load of its field or with its address in `r9`. A call of `UNSUPPORTED` is taken for the kind seen,
    unless it comes from one of two addresses and the kind is not one the dispatcher asks for first; and the stub has to
    be there, since a bundle of zeros succeeds at once. -/
def TracesName (g : EfiHandoffGlobals) (publishesSetMem : Bool) (p : IA64ISAPlugin I) (call : ServiceCall M) : Prop :=
  match call.slot.stub publishesSetMem with
  | .SUCCESS => call.slot.kind = .FreePool ↔
      g.efiBootServiceKindForField p.services.lastEfiDescriptorFieldAddress = .FreePool ∨
        call.cpu.getGR 9 = g.EFI_BOOT_SERVICES_ADDR + 0x48
  | .UNSUPPORTED =>
      isZeroFilledEfiHandoffBundle g call.memory (g.stubCode .UNSUPPORTED) = false ∧
      match call.slot.kind with
      | .AllocatePages => call.seenKind g p = .AllocatePages
      | .RaiseTPL => call.seenKind g p = .RaiseTPL
      | .RestoreTPL => call.seenKind g p = .RestoreTPL ∨
          call.cpu.ip = 0x2E620 ∧ call.seenKind g p ∉ [.AllocatePages, .RaiseTPL]
      | .InstallProtocolInterface => call.cpu.ip ≠ 0x2E620 ∧ (call.seenKind g p = .InstallProtocolInterface ∨
          call.cpu.ip = 0x2E480 ∧ call.seenKind g p ∉ [.AllocatePages, .RaiseTPL, .RestoreTPL])
      | _ => call.cpu.ip ≠ 0x2E620 ∧ call.cpu.ip ≠ 0x2E480 ∧
          call.seenKind g p ∉ [.AllocatePages, .RaiseTPL, .RestoreTPL, .InstallProtocolInterface]
  | _ => True

end ServiceCall

/-! ## The choice -/

/-- **The choice behind `UNSUPPORTED`.** The dispatcher runs the service of a kind exactly when it is the kind seen, or
    the caller's address stands for it and no kind asked for first is seen. -/
theorem unsupportedChoice_eq_iff : ∀ (seen kind : EfiBootServiceKind) (currentIP : UInt64),
    IA64ISAPlugin.unsupportedChoice seen currentIP = kind.unsupportedService ↔
      match kind with
      | .AllocatePages => seen = .AllocatePages
      | .RaiseTPL => seen = .RaiseTPL
      | .RestoreTPL => seen = .RestoreTPL ∨ currentIP = 0x2E620 ∧ seen ∉ [.AllocatePages, .RaiseTPL]
      | .InstallProtocolInterface => currentIP ≠ 0x2E620 ∧ (seen = .InstallProtocolInterface ∨
          currentIP = 0x2E480 ∧ seen ∉ [.AllocatePages, .RaiseTPL, .RestoreTPL])
      | _ => currentIP ≠ 0x2E620 ∧ currentIP ≠ 0x2E480 ∧
          seen ∉ [.AllocatePages, .RaiseTPL, .RestoreTPL, .InstallProtocolInterface] := by
  intro seen kind currentIP
  have hne : currentIP = 0x2E620 → currentIP ≠ 0x2E480 := by
    rintro rfl
    decide
  unfold IA64ISAPlugin.unsupportedChoice
  by_cases hrestore : currentIP = 0x2E620
  · have hinstall := hne hrestore
    cases seen <;> cases kind <;> simp [hrestore, EfiBootServiceKind.unsupportedService]
  · by_cases hinstall : currentIP = 0x2E480
    · cases seen <;> cases kind <;> simp [hinstall, EfiBootServiceKind.unsupportedService]
    · cases seen <;> cases kind <;> simp [hrestore, hinstall, EfiBootServiceKind.unsupportedService]

/-! ## The stubs -/

namespace EfiStub

/-- No two stubs share their code. -/
theorem find?_codeOffset (s : EfiStub) : all.find? (fun t => s.codeOffset = t.codeOffset) = some s := by
  cases s <;> decide

end EfiStub

namespace EfiHandoffGlobals
variable {g : EfiHandoffGlobals}

/-- The handoff region is where the layout puts it: below the regions of virtual addresses, on a bundle boundary. -/
structure Placed (g : EfiHandoffGlobals) : Prop where
  aligned : g.EFI_HANDOFF_REGION_BASE.toNat % 16 = 0
  nonzero : 0 < g.EFI_HANDOFF_REGION_BASE.toNat
  bounded : g.EFI_HANDOFF_REGION_BASE.toNat + 0x200000 ≤ 2 ^ 63

theorem stubAt_stubCode (s : EfiStub) : g.stubAt (g.stubCode s) = some s := by
  rw [← EfiStub.find?_codeOffset s]
  refine congrFun (congrArg List.find? (funext fun t => ?_)) EfiStub.all
  exact decide_eq_decide.mpr (UInt64.add_right_inj g.EFI_HANDOFF_REGION_BASE)

theorem add_toNat (h : g.Placed) {offset : UInt64} (hlt : offset < kEfiHandoffRegionSpan) :
    (g.EFI_HANDOFF_REGION_BASE + offset).toNat = g.EFI_HANDOFF_REGION_BASE.toNat + offset.toNat := by
  have hlt := UInt64.lt_iff_toNat_lt.mp hlt
  have hspan : kEfiHandoffRegionSpan.toNat = 0x200000 := rfl
  have hbound := h.bounded
  rw [UInt64.toNat_add, Nat.mod_eq_of_lt (by omega)]

theorem add_add_toNat (h : g.Placed) {table offset : UInt64} (hlt : (table + offset).toNat < 0x200000) :
    (g.EFI_HANDOFF_REGION_BASE + table + offset).toNat =
      g.EFI_HANDOFF_REGION_BASE.toNat + (table + offset).toNat := by
  rw [UInt64.add_assoc]
  exact add_toNat h (UInt64.lt_iff_toNat_lt.mpr hlt)

/-- The boot services table, between the table's header and its end. -/
theorem bootServices_toNat (h : g.Placed) :
    (g.EFI_BOOT_SERVICES_ADDR + 0x18).toNat = g.EFI_HANDOFF_REGION_BASE.toNat + 0x818 ∧
      (g.EFI_BOOT_SERVICES_ADDR + 0x180).toNat = g.EFI_HANDOFF_REGION_BASE.toNat + 0x980 :=
  ⟨add_add_toNat h (by decide), add_add_toNat h (by decide)⟩

/-- The runtime services table, likewise. -/
theorem runtimeServices_toNat (h : g.Placed) :
    (g.EFI_RUNTIME_SERVICES_ADDR + 0x18).toNat = g.EFI_HANDOFF_REGION_BASE.toNat + 0x418 ∧
      (g.EFI_RUNTIME_SERVICES_ADDR + 0x88).toNat = g.EFI_HANDOFF_REGION_BASE.toNat + 0x488 :=
  ⟨add_add_toNat h (by decide), add_add_toNat h (by decide)⟩

/-- A bundle below the regions of virtual addresses stays where it is. -/
theorem normalizeBranchEntryIP_of_lt {target : UInt64} (haligned : target.toNat % 16 = 0)
    (hlt : target.toNat < 2 ^ 63) : normalizeBranchEntryIP g target = target := by
  have hbundle : target &&& ~~~0xF = target := by
    have hmask : (0xF : UInt64) = lowMask 4 := by decide
    refine UInt64.toNat_inj.mp ?_
    rw [hmask, and_not_lowMask_toNat (by decide)]
    exact Nat.div_mul_cancel (Nat.dvd_of_mod_eq_zero haligned)
  have hkernel : normalizeKernelEntryIP target = target := by
    unfold normalizeKernelEntryIP
    dsimp only
    rw [hbundle, if_neg]
    rintro ⟨hbase, _⟩
    have hbase := UInt64.le_iff_toNat_le.mp hbase
    have hvalue : kIa64KernelVirtualBase.toNat = 0xA000000100000000 := rfl
    omega
  unfold normalizeBranchEntryIP
  dsimp only
  rw [hkernel, hbundle, if_neg]
  rintro ⟨hregion, _⟩
  have hle : (target &&& ~~~(((1 : UInt64) <<< 61) - 1)).toNat ≤ target.toNat := by
    rw [UInt64.toNat_and]
    exact Nat.and_le_left
  rw [hregion] at hle
  have hvalue : ((7 : UInt64) <<< 61).toNat = 7 * 2 ^ 61 := rfl
  omega

end EfiHandoffGlobals

/-- The code of a stub enters its stub, but a bundle of zeros in the place of `UNSUPPORTED` comes first. -/
theorem firmwareEntry_stubCode {g : EfiHandoffGlobals} (h : g.Placed) (memory : M) (s : EfiStub) :
    firmwareEntry g memory (g.stubCode s) =
      if s = .UNSUPPORTED ∧ isZeroFilledEfiHandoffBundle g memory (g.stubCode s) = true then some .zeroFilled
      else some (.stub s) := by
  have hcode : (g.stubCode s).toNat = g.EFI_HANDOFF_REGION_BASE.toNat + s.codeOffset.toNat :=
    EfiHandoffGlobals.add_toNat h s.codeOffset_lt
  have hoffset : s.codeOffset.toNat % 16 = 0 ∧ s.codeOffset.toNat < 0x2000 := by cases s <;> decide
  have haligned := h.aligned
  have hbound := h.bounded
  have hpos := h.nonzero
  have hsal : normalizeBranchEntryIP g (g.stubCode s) ≠ g.EFI_SAL_PROCEDURE_CODE_ADDR := by
    rw [EfiHandoffGlobals.normalizeBranchEntryIP_of_lt (by omega) (by omega)]
    intro heq
    have hoffsets : s.codeOffset = 0x2140 := (UInt64.add_right_inj g.EFI_HANDOFF_REGION_BASE).mp heq
    rw [hoffsets] at hoffset
    exact absurd hoffset.2 (by decide)
  have hnull : g.stubCode s ≠ 0 := by
    intro heq
    rw [heq, UInt64.toNat_zero] at hcode
    omega
  rw [firmwareEntry, if_neg hsal, EfiHandoffGlobals.stubAt_stubCode]
  dsimp only
  by_cases hs : s = .UNSUPPORTED
  · rw [if_neg (by rw [hs]; simp), if_neg hnull]
    by_cases hzero : isZeroFilledEfiHandoffBundle g memory (g.stubCode s) = true
    · rw [if_pos hzero, if_pos ⟨hs, hzero⟩]
    · rw [if_neg hzero, if_neg (fun h => hzero h.2)]
      rfl
  · rw [if_pos ⟨by simp, fun heq => hs (Option.some.inj heq)⟩, if_neg (fun h => hs h.1)]
    rfl

/-! ## One call -/

/-- No other register is kept where `r1` is. -/
theorem getGR_setGR_one (cpu : CPUState) {i : Fin 128} (h : 1 < i.val) (v : UInt64) :
    (cpu.setGR 1 v).getGR i = cpu.getGR i := by
  have hone : cpu.mapGR (1 : Fin 128) = 1 := by
    rw [CPUState.mapGR, if_neg (fun h => absurd h.1 (by decide)), if_pos (.inl (by decide))]
    rfl
  have hmap : cpu.mapGR i ≠ 1 := by
    rw [CPUState.mapGR]
    split
    · omega
    split
    · omega
    dsimp only
    split <;> omega
  have hi : i ≠ 0 := by
    rintro rfl
    exact absurd h (by decide)
  rw [CPUState.setGR, if_neg (by decide), CPUState.getGR, CPUState.getGR, if_neg hi, if_neg hi, hone]
  exact GRFile.get_set_ne (Ne.symm hmap) v

namespace ServiceCall
variable {g : EfiHandoffGlobals} {publishesSetMem : Bool} {p : IA64ISAPlugin I} {call : ServiceCall M}
  {firmware : Firmware I M}

/-- Finding the target changes no register but `r1`, and none of the traces. -/
theorem resolve_traces (g : EfiHandoffGlobals) (q : IA64ISAPlugin I) (memory : M) (target : UInt64) :
    let resolved := (q.resolveIndirectCall g memory target).2
    resolved.services = q.services ∧ resolved.cpu.ip = q.cpu.ip ∧
      ∀ i : Fin 128, 1 < i.val → resolved.cpu.getGR i = q.cpu.getGR i := by
  unfold IA64ISAPlugin.resolveIndirectCall
  dsimp only
  -- the processor is as it was, but for the callee's global pointer
  refine ⟨rfl, ?_, fun i hi => ?_⟩
  · rw [IA64ISAPlugin.setCpu, IA64ISAPlugin.cpu]
    dsimp only
    split
    · rw [CPUState.setGR, if_neg (by decide)]
    · rfl
  · rw [IA64ISAPlugin.setCpu, IA64ISAPlugin.cpu]
    dsimp only
    split
    · exact getGR_setGR_one _ hi _
    · rfl

/-- The dispatcher's choice, by the stub. -/
theorem chosenService_eq (hplaced : g.Placed) (h : call.ThroughSlot g publishesSetMem p) :
    chosenService g p call =
      match call.slot.stub publishesSetMem with
      | .SUCCESS => some (if (p.setCpu call.cpu).FreePoolCall g then .FreePool else .GenericSuccess)
      | .UNSUPPORTED =>
          if isZeroFilledEfiHandoffBundle g call.memory (g.stubCode .UNSUPPORTED) = true then none
          else some (IA64ISAPlugin.unsupportedChoice (call.seenKind g p) call.cpu.ip)
      | s => some (.ofStub s) := by
  obtain ⟨hservices, hip, hregisters⟩ := resolve_traces g (p.setCpu call.cpu) call.memory call.source
  have htarget := h.target
  unfold chosenService
  dsimp only
  generalize (p.setCpu call.cpu).resolveIndirectCall g call.memory call.source = resolved at *
  obtain ⟨target, q⟩ := resolved
  dsimp only at hservices hip hregisters htarget ⊢
  rw [htarget, firmwareEntry_stubCode hplaced]
  cases call.slot.stub publishesSetMem with
  | SUCCESS =>
      have hfree : q.FreePoolCall g ↔ (p.setCpu call.cpu).FreePoolCall g := by
        unfold IA64ISAPlugin.FreePoolCall
        rw [hservices, hregisters 9 (by decide)]
      rw [if_neg (fun hs => absurd hs.1 (by decide))]
      simp only [IA64ISAPlugin.stubService, hfree]
  | UNSUPPORTED =>
      have hseen : q.dispatchKind g = call.seenKind g p := by
        unfold seenKind IA64ISAPlugin.dispatchKind IA64ISAPlugin.dispatchField
        rw [hservices, hregisters 37 (by decide)]
      by_cases hzero : isZeroFilledEfiHandoffBundle g call.memory (g.stubCode .UNSUPPORTED) = true
      · rw [if_pos ⟨rfl, hzero⟩, if_pos hzero]
      · rw [if_neg (fun hs => hzero hs.2), if_neg hzero]
        dsimp only [IA64ISAPlugin.stubService]
        rw [hseen, hip]
        rfl
  | _ =>
      rw [if_neg (fun hs => absurd hs.1 (by decide))]
      rfl

/-- **Which calls choose the service of their slot.** -/
theorem chosenService_iff (hplaced : g.Placed) (h : call.ThroughSlot g publishesSetMem p) :
    chosenService g p call = some (call.slot.service publishesSetMem) ↔ call.TracesName g publishesSetMem p := by
  rw [chosenService_eq hplaced h]
  unfold EfiTableSlot.service TracesName
  cases call.slot.stub publishesSetMem with
  | SUCCESS =>
      dsimp only
      have hcall : (p.setCpu call.cpu).FreePoolCall g ↔
          g.efiBootServiceKindForField p.services.lastEfiDescriptorFieldAddress = .FreePool ∨
            call.cpu.getGR 9 = g.EFI_BOOT_SERVICES_ADDR + 0x48 := Iff.rfl
      rw [← hcall]
      by_cases hkind : call.slot.kind = .FreePool <;> by_cases hfree : (p.setCpu call.cpu).FreePoolCall g <;>
        simp [hkind, hfree]
  | UNSUPPORTED =>
      dsimp only
      by_cases hzero : isZeroFilledEfiHandoffBundle g call.memory (g.stubCode .UNSUPPORTED) = true
      · simp [hzero]
      · rw [if_neg hzero, Option.some_inj, unsupportedChoice_eq_iff, Bool.eq_false_iff]
        exact (and_iff_right hzero).symm
  | _ => exact iff_of_true rfl trivial

/-- What is chosen is done. -/
theorem performed_of_chosen (h : call.ThroughSlot g publishesSetMem p) {service : TableService}
    (hchosen : chosenService g p call = some service) :
    (p.setCpu call.cpu).decideBranch g (IA64ISAPlugin.dispatched firmware) call.instr call.memory =
      let resolved := ((p.setCpu call.cpu).resolveIndirectCall g call.memory call.source).2
      let (p, memory) := resolved.performService firmware g call.memory service
      { branchTarget := some (call.cpu.ip + 16), handledFirmwareCallStub := true
        plugin := p.setCpu (p.cpu.setBR call.instr.dst (call.cpu.ip + 16)), memory := memory } := by
  obtain ⟨_, hip, _⟩ := resolve_traces g (p.setCpu call.cpu) call.memory call.source
  obtain ⟨htype, htarget⟩ := h.indirect
  have hloop : call.instr.callLooksLikeCountedLoop (p.setCpu call.cpu).cpu.ip = false := by
    rw [BranchInstruction.callLooksLikeCountedLoop, htarget]
  have hlive : call.instr.livePredicateTrue (p.setCpu call.cpu).cpu = true := h.live
  have hsource : (p.setCpu call.cpu).cpu.getBR call.instr.src1 = call.source := rfl
  unfold chosenService at hchosen
  unfold IA64ISAPlugin.decideBranch
  rw [htype]
  dsimp only
  rw [hloop, if_neg Bool.false_ne_true]
  unfold IA64ISAPlugin.decideCall
  rw [hlive, if_pos rfl, htarget]
  dsimp only at hchosen ⊢
  rw [hsource]
  generalize (p.setCpu call.cpu).resolveIndirectCall g call.memory call.source = resolved at *
  obtain ⟨target, q⟩ := resolved
  dsimp only at hip hchosen ⊢
  have hip : q.cpu.ip = call.cpu.ip := hip
  rw [hip]
  cases hentry : firmwareEntry g call.memory target with
  | none =>
      rw [hentry] at hchosen
      cases hchosen
  | some entry =>
      rw [hentry] at hchosen
      cases entry with
      | stub s =>
          obtain rfl := Option.some.inj hchosen
          rfl
      | sal => cases hchosen
      | null => cases hchosen
      | zeroFilled => cases hchosen

theorem runsSlot_iff (hplaced : g.Placed) (h : call.ThroughSlot g publishesSetMem p) :
    call.RunsSlot firmware g publishesSetMem p ↔ call.TracesName g publishesSetMem p := by
  rw [← chosenService_iff hplaced h]
  exact ⟨fun hruns => hruns.chosen, fun hchosen => ⟨hchosen, performed_of_chosen h hchosen⟩⟩

end ServiceCall

/-! ## Every call of a run -/

namespace GuestStep

/-- A property of the calls of a run, with the plugin as each finds it. -/
def OfCall (property : IA64ISAPlugin I → ServiceCall M → Prop) (p : IA64ISAPlugin I) : GuestStep M → Prop
  | .instruction .. => True
  | .serviceCall call => property p call

end GuestStep

/-- **Which runs get the services they ask for.** In a run of any instructions and any calls through the pointers of the
    two tables, every call runs the service of its slot exactly when the traces name the slot at every call. -/
theorem everyCall_runsSlot_iff : ∀ (d : DiagnosticSettings) (cases : ExecuteCases M) (firmware : Firmware I M)
    (g : EfiHandoffGlobals) (publishesSetMem : Bool) (p : IA64ISAPlugin I) (steps : List (GuestStep M)), g.Placed →
    EveryStep (GuestStep.apply d cases firmware g) (GuestStep.OfCall fun p call => call.ThroughSlot g publishesSetMem p)
      p steps →
    (EveryStep (GuestStep.apply d cases firmware g)
        (GuestStep.OfCall fun p call => call.RunsSlot firmware g publishesSetMem p) p steps ↔
      EveryStep (GuestStep.apply d cases firmware g)
        (GuestStep.OfCall fun p call => call.TracesName g publishesSetMem p) p steps) := by
  intro d cases firmware g publishesSetMem p steps hplaced
  induction steps generalizing p with
  | nil => exact fun _ => Iff.rfl
  | cons step steps ih =>
      rintro ⟨hstep, hrest⟩
      refine and_congr ?_ (ih _ hrest)
      cases step with
      | instruction => exact Iff.rfl
      | serviceCall call => exact ServiceCall.runsSlot_iff hplaced hstep

/-! ## Load, then call -/

namespace IA64ISAPlugin
variable {p q : IA64ISAPlugin I} (d : DiagnosticSettings) (cases : ExecuteCases M)

theorem services_readIVR (p : IA64ISAPlugin I) : p.readIVR.2.services = p.services := by
  unfold readIVR
  split
  · rfl
  · split <;> rfl

theorem services_readControlRegister {selector : Nat} {value : UInt64}
    (h : p.readControlRegister selector = .ok (value, q)) : q.services = p.services := by
  unfold readControlRegister at h
  split at h
  · cases h
    rfl
  split at h
  · split at h
    · cases h
      rfl
    · cases h
  · obtain rfl := congrArg Prod.snd (Except.ok.inj h)
    exact p.services_readIVR

theorem services_updateIntervalTimer (p : IA64ISAPlugin I) : p.updateIntervalTimer.services = p.services := by
  unfold updateIntervalTimer
  dsimp only
  split
  · rfl
  · split <;> rfl

theorem services_writeControlRegister {selector : Nat} {value : UInt64}
    (h : p.writeControlRegister selector value = .ok q) : q.services = p.services := by
  unfold writeControlRegister at h
  split at h
  case isFalse => cases h
  split at h
  · cases h
  split at h
  · split at h
    · cases h
      rfl
    · cases h
      rfl
  split at h
  · obtain rfl := Except.ok.inj h
    exact services_updateIntervalTimer _
  split at h
  · obtain rfl := Except.ok.inj h
    exact services_updateIntervalTimer _
  · cases h
    rfl

theorem services_dispatchInstruction (p : IA64ISAPlugin I) (memory : M) (instr : InstructionEx)
    (ignorePredicate : Bool) :
    (dispatchInstruction cases p memory instr ignorePredicate).2.1.services = p.services := by
  unfold dispatchInstruction
  split
  · split
    · next hread =>
        rw [← services_readControlRegister hread]
        rfl
    · rfl
  · split
    · next hwrite => exact services_writeControlRegister hwrite
    · rfl
  · rfl

theorem services_finishInstruction (instr : InstructionEx) (ended : ExecuteEnd) (p : IA64ISAPlugin I) :
    (finishInstruction d instr ended p).2.services = p.services := by
  have hspend : ∀ q : IA64ISAPlugin I, q.spendTraceBudget.services = q.services := by
    intro q
    unfold spendTraceBudget
    split <;> rfl
  cases ended with
  | done =>
      unfold finishInstruction
      dsimp only
      rw [hspend]
      split
      · unfold recordTrackedRegisterWrite
        split <;> rfl
      · rfl
  | fault f => rfl
  | threw => rfl

/-- The field that a load is remembered by. -/
theorem lastField_noteDescriptorField (g : EfiHandoffGlobals) (instr : InstructionEx) (p : IA64ISAPlugin I) :
    (noteDescriptorField g instr p).services.lastEfiDescriptorFieldAddress =
      let loadAddress := p.cpu.getGR (registerField instr.src1)
      if instr.type = .LD8 ∧
          ((g.EFI_RUNTIME_SERVICES_ADDR + 0x18 ≤ loadAddress ∧ loadAddress < g.EFI_RUNTIME_SERVICES_ADDR + 0x88) ∨
            (g.EFI_BOOT_SERVICES_ADDR + 0x18 ≤ loadAddress ∧ loadAddress < g.EFI_BOOT_SERVICES_ADDR + 0x180)) then
        loadAddress
      else p.services.lastEfiDescriptorFieldAddress := by
  unfold noteDescriptorField
  dsimp only
  split <;> rfl

/-- **What an instruction leaves behind**: a load from a table leaves the address of its field, even if its predicate is
    false; every other instruction leaves what there was. -/
theorem lastField_executeInstruction (g : EfiHandoffGlobals) (p : IA64ISAPlugin I) (memory : M)
    (instr : InstructionEx) (ignorePredicate : Bool) :
    (p.executeInstruction d cases g memory instr ignorePredicate).2.1.services.lastEfiDescriptorFieldAddress =
      (noteDescriptorField g instr p).services.lastEfiDescriptorFieldAddress := by
  have hrecorded : (recorded d g p instr).services.lastEfiDescriptorFieldAddress =
      (noteDescriptorField g instr p).services.lastEfiDescriptorFieldAddress := by
    unfold recorded
    rw [lastField_noteDescriptorField, lastField_noteDescriptorField]
    split <;> rfl
  have hreport : ∀ q : IA64ISAPlugin I, (reportRegisterConfigEntry d q).services = q.services := by
    intro q
    unfold reportRegisterConfigEntry
    split <;> rfl
  unfold executeInstruction
  dsimp only
  split
  · exact hrecorded
  · rw [services_finishInstruction, services_dispatchInstruction, hreport]
    exact hrecorded

end IA64ISAPlugin

namespace EfiTableSlot
variable {g : EfiHandoffGlobals}

/-- Where the slots of the boot services table are. -/
theorem bootServices_toNat (h : g.Placed) (index : Fin 45) :
    g.EFI_HANDOFF_REGION_BASE.toNat + 0x818 ≤ ((bootServices index).address g).toNat ∧
      ((bootServices index).address g).toNat < g.EFI_HANDOFF_REGION_BASE.toNat + 0x980 := by
  have hoffset : ∀ i : Fin 45, 0x818 ≤ ((0x800 : UInt64) + (bootServices i).offset).toNat ∧
      ((0x800 : UInt64) + (bootServices i).offset).toNat < 0x980 := by decide
  obtain ⟨hge, hlt⟩ := hoffset index
  have haddress := EfiHandoffGlobals.add_add_toNat h (lt_trans hlt (by decide))
  unfold address EfiHandoffGlobals.EFI_BOOT_SERVICES_ADDR
  dsimp only
  omega

/-- Where the slots of the runtime services table are. -/
theorem runtimeServices_toNat (h : g.Placed) (index : Fin 14) :
    g.EFI_HANDOFF_REGION_BASE.toNat + 0x418 ≤ ((runtimeServices index).address g).toNat ∧
      ((runtimeServices index).address g).toNat < g.EFI_HANDOFF_REGION_BASE.toNat + 0x488 := by
  have hoffset : ∀ i : Fin 14, 0x418 ≤ ((0x400 : UInt64) + (runtimeServices i).offset).toNat ∧
      ((0x400 : UInt64) + (runtimeServices i).offset).toNat < 0x488 := by decide
  obtain ⟨hge, hlt⟩ := hoffset index
  have haddress := EfiHandoffGlobals.add_add_toNat h (lt_trans hlt (by decide))
  unfold address EfiHandoffGlobals.EFI_RUNTIME_SERVICES_ADDR
  dsimp only
  omega

/-- The fields of the boot services table are those of its slots. -/
theorem isEfiBootServicesFieldAddress_address (h : g.Placed) (slot : EfiTableSlot) :
    g.isEfiBootServicesFieldAddress (slot.address g) = true ↔ ∃ index, slot = .bootServices index := by
  obtain ⟨hfirst, hlast⟩ := EfiHandoffGlobals.bootServices_toNat h
  unfold EfiHandoffGlobals.isEfiBootServicesFieldAddress
  rw [Bool.and_eq_true, Bool.and_eq_true, decide_eq_true_iff, decide_eq_true_iff, ge_iff_le, UInt64.le_iff_toNat_le,
    UInt64.lt_iff_toNat_lt, hfirst, hlast]
  cases slot with
  | runtimeServices index =>
      -- the runtime services come first
      obtain ⟨_, hlt⟩ := runtimeServices_toNat h index
      refine iff_of_false (fun hin => ?_) (fun hin => by obtain ⟨_, heq⟩ := hin; cases heq)
      omega
  | bootServices index =>
      have haligned : ∀ i : Fin 45, ((bootServices i).offset &&& 7 == 0) = true := by decide
      have hsub : (bootServices index).address g - g.EFI_BOOT_SERVICES_ADDR = (bootServices index).offset := by
        unfold address
        grind
      rw [hsub]
      exact iff_of_true ⟨bootServices_toNat h index, haligned index⟩ ⟨index, rfl⟩

/-- The field of a slot names its kind. -/
theorem kind_address (h : g.Placed) (slot : EfiTableSlot) :
    g.efiBootServiceKindForField (slot.address g) = slot.kind := by
  unfold EfiHandoffGlobals.efiBootServiceKindForField
  cases slot with
  | runtimeServices index =>
      rw [if_neg]
      · rfl
      · rw [isEfiBootServicesFieldAddress_address h]
        rintro ⟨_, heq⟩
        cases heq
  | bootServices index =>
      have hsub : (EfiTableSlot.bootServices index).address g - g.EFI_BOOT_SERVICES_ADDR =
          (EfiTableSlot.bootServices index).offset := by
        unfold address
        grind
      rw [if_pos ((isEfiBootServicesFieldAddress_address h _).mpr ⟨index, rfl⟩), hsub]
      rfl

/-- Every slot is in the range of one of the two tables, so a load from it is remembered. -/
theorem lastField_load (d : DiagnosticSettings) (cases : ExecuteCases M) (firmware : Firmware I M) (h : g.Placed)
    (p : IA64ISAPlugin I) (slot : EfiTableSlot) (instr : InstructionEx) (cpu : CPUState) (memory : M)
    (ignorePredicate : Bool) (htype : instr.type = .LD8)
    (hsource : cpu.getGR (registerField instr.src1) = slot.address g) :
    (GuestStep.apply d cases firmware g p (.instruction instr cpu memory ignorePredicate)
      ).services.lastEfiDescriptorFieldAddress = slot.address g := by
  have hsource : (p.setCpu cpu).cpu.getGR (registerField instr.src1) = slot.address g := hsource
  unfold GuestStep.apply
  dsimp only
  rw [IA64ISAPlugin.lastField_executeInstruction, IA64ISAPlugin.lastField_noteDescriptorField]
  dsimp only
  rw [hsource, if_pos]
  refine ⟨htype, ?_⟩
  obtain ⟨hfirst, hlast⟩ := EfiHandoffGlobals.bootServices_toNat h
  obtain ⟨hfirst', hlast'⟩ := EfiHandoffGlobals.runtimeServices_toNat h
  rw [UInt64.le_iff_toNat_le, UInt64.lt_iff_toNat_lt, UInt64.le_iff_toNat_le, UInt64.lt_iff_toNat_lt, hfirst, hlast,
    hfirst', hlast']
  cases slot with
  | runtimeServices index => exact .inl (runtimeServices_toNat h index)
  | bootServices index => exact .inr (bootServices_toNat h index)

end EfiTableSlot

/-- No field is at address zero. -/
theorem EfiHandoffGlobals.efiBootServiceKindForField_zero {g : EfiHandoffGlobals} (h : g.Placed) :
    g.efiBootServiceKindForField 0 = .Unknown := by
  have hzero : ¬ g.EFI_BOOT_SERVICES_ADDR + 0x18 ≤ 0 := by
    rw [UInt64.le_iff_toNat_le, (bootServices_toNat h).1, UInt64.toNat_zero]
    omega
  have hfield : ¬ g.isEfiBootServicesFieldAddress 0 = true := by
    unfold isEfiBootServicesFieldAddress
    simp only [ge_iff_le, hzero, decide_false, Bool.false_and, Bool.false_eq_true, not_false_eq_true]
  rw [efiBootServiceKindForField, if_neg hfield]

namespace ServiceCall
variable {g : EfiHandoffGlobals} {p : IA64ISAPlugin I} {call : ServiceCall M}

omit [IMemory M] in
/-- Right after the load of its own field, and with no other field in `r37`, the kind seen is that of the slot. -/
theorem seenKind_of_last (h : g.Placed) (hlast : p.services.lastEfiDescriptorFieldAddress = call.slot.address g)
    (hargument : g.isEfiBootServicesFieldAddress (call.cpu.getGR 37) = true → ∃ index, call.slot = .bootServices index) :
    call.seenKind g p = call.slot.kind := by
  have hloaded : (p.setCpu call.cpu).services.lastEfiDescriptorFieldAddress = call.slot.address g := hlast
  unfold seenKind IA64ISAPlugin.dispatchKind IA64ISAPlugin.dispatchField
  dsimp only
  rw [hloaded]
  by_cases hboot : ∃ index, call.slot = .bootServices index
  · rw [if_pos ((EfiTableSlot.isEfiBootServicesFieldAddress_address h _).mpr hboot), EfiTableSlot.kind_address h]
  · have hregister : ¬ g.isEfiBootServicesFieldAddress ((p.setCpu call.cpu).cpu.getGR 37) = true :=
      fun hin => hboot (hargument hin)
    rw [if_neg (fun hin => hboot ((EfiTableSlot.isEfiBootServicesFieldAddress_address h _).mp hin)), if_neg hregister,
      EfiHandoffGlobals.efiBootServiceKindForField_zero h]
    cases hslot : call.slot with
    | runtimeServices index => rfl
    | bootServices index => exact absurd ⟨index, hslot⟩ hboot

/-- **Load, then call.** A call right after the load of its pointer is told apart, if no register happens to hold
    another field and it comes from neither of the two addresses. -/
theorem tracesName_of_last (publishesSetMem : Bool) (h : g.Placed)
    (hlast : p.services.lastEfiDescriptorFieldAddress = call.slot.address g)
    (hpool : call.cpu.getGR 9 = g.EFI_BOOT_SERVICES_ADDR + 0x48 → call.slot.kind = .FreePool)
    (hargument : g.isEfiBootServicesFieldAddress (call.cpu.getGR 37) = true → ∃ index, call.slot = .bootServices index)
    (hrestore : call.cpu.ip ≠ 0x2E620) (hinstall : call.cpu.ip ≠ 0x2E480)
    (hstub : isZeroFilledEfiHandoffBundle g call.memory (g.stubCode .UNSUPPORTED) = false) :
    call.TracesName g publishesSetMem p := by
  have hseen := seenKind_of_last h hlast hargument
  unfold TracesName
  cases call.slot.stub publishesSetMem with
  | SUCCESS =>
      dsimp only
      rw [hlast, EfiTableSlot.kind_address h]
      exact ⟨.inl, fun hkind => hkind.elim id hpool⟩
  | UNSUPPORTED =>
      dsimp only
      rw [hseen]
      refine ⟨hstub, ?_⟩
      cases call.slot.kind <;> simp [hrestore, hinstall]
  | _ => trivial

end ServiceCall

/-! ## Pointers called in another order -/

/-- Guest memory with the `UNSUPPORTED` stub and its descriptor. -/
def unsupportedStubMemory : SparseMemory :=
  ⟨0x20000000, fun x => if x = 0x1FE00F00 then 1 else [0x00, 0x0F, 0xE0, 0x1F].getD (x - 0x1FE00F40) 0⟩

def idleFirmware : Firmware Unit SparseMemory where
  palProcedure p := p
  serve _ _ p memory := (p, memory)

theorem resetEfiHandoffLayoutGlobals_placed : resetEfiHandoffLayoutGlobals.Placed :=
  ⟨by decide +kernel, by decide +kernel, by decide +kernel⟩

/-- `ld8 r20 = [r14]`. -/
def loadFromR14 : InstructionEx := { type := .LD8, unit := .M_UNIT, dst := 20, src1 := 14 }

/-- The load of a slot's pointer. -/
def loadSlot (slot : EfiTableSlot) : GuestStep SparseMemory :=
  .instruction loadFromR14 (CPUState.reset.setGR 14 (slot.address resetEfiHandoffLayoutGlobals)) unsupportedStubMemory
    false

theorem lastField_loadSlot (slot : EfiTableSlot) :
    ((loadSlot slot).apply {} onlyLoads idleFirmware resetEfiHandoffLayoutGlobals p
      ).services.lastEfiDescriptorFieldAddress = slot.address resetEfiHandoffLayoutGlobals := by
  have hsource : (CPUState.reset.setGR 14 (slot.address resetEfiHandoffLayoutGlobals)).getGR
      (registerField loadFromR14.src1) = slot.address resetEfiHandoffLayoutGlobals :=
    CPUState.getGR_setGR_self CPUState.reset (by decide) (by decide) _
  rw [loadSlot]
  exact slot.lastField_load {} onlyLoads idleFirmware resetEfiHandoffLayoutGlobals_placed p loadFromR14 _
    unsupportedStubMemory false rfl hsource

/-- `br.call b0 = b6` of a slot's pointer. -/
def callSlot (slot : EfiTableSlot) : ServiceCall SparseMemory where
  slot := slot
  instr := { type := .BR_CALL, src1 := 6 }
  cpu := (CPUState.reset.setIP 0x5200).setBR 6 (resetEfiHandoffLayoutGlobals.stubDesc .UNSUPPORTED)
  memory := unsupportedStubMemory

def startedPlugin : IA64ISAPlugin Unit := IA64ISAPlugin.construct resetEfiHandoffLayoutGlobals

def raiseTPLSlot : EfiTableSlot := .bootServices 0
def allocatePagesSlot : EfiTableSlot := .bootServices 2

/-- A call of the pointer of a slot of `UNSUPPORTED` goes through that slot. -/
theorem throughSlot_callSlot {slot : EfiTableSlot} (h : slot.stub true = .UNSUPPORTED) :
    (callSlot slot).ThroughSlot resetEfiHandoffLayoutGlobals true p := by
  refine ⟨⟨rfl, rfl⟩, rfl, ?_⟩
  change ((callSlot slot).slot.stub true) = .UNSUPPORTED at h
  rw [h]
  have hcalled : IA64ISAPlugin.calledDescriptor resetEfiHandoffLayoutGlobals unsupportedStubMemory
      (resetEfiHandoffLayoutGlobals.stubDesc .UNSUPPORTED) =
        some (resetEfiHandoffLayoutGlobals.stubDesc .UNSUPPORTED,
          ⟨resetEfiHandoffLayoutGlobals.stubCode .UNSUPPORTED, 0⟩) := by
    decide +kernel
  have hsource : (callSlot slot).source = resetEfiHandoffLayoutGlobals.stubDesc .UNSUPPORTED := by
    change ((CPUState.reset.setIP 0x5200).setBR 6 (resetEfiHandoffLayoutGlobals.stubDesc .UNSUPPORTED)).getBR 6 = _
    decide +kernel
  have hmemory : (callSlot slot).memory = unsupportedStubMemory := rfl
  unfold IA64ISAPlugin.resolveIndirectCall
  rw [hsource, hmemory, hcalled]
  rfl

/-- `AllocatePages` called after the load of `RaiseTPL`. -/
def callAfterLoads : List (GuestStep SparseMemory) :=
  [loadSlot allocatePagesSlot, loadSlot raiseTPLSlot, .serviceCall (callSlot allocatePagesSlot)]

theorem throughSlot_callAfterLoads :
    EveryStep (GuestStep.apply {} onlyLoads idleFirmware resetEfiHandoffLayoutGlobals)
      (GuestStep.OfCall fun p call => call.ThroughSlot resetEfiHandoffLayoutGlobals true p)
      startedPlugin callAfterLoads :=
  ⟨trivial, trivial, throughSlot_callSlot _ (by decide), trivial⟩

/-- A load and the call of its pointer. -/
theorem everyCall_runsSlot_loadThenCall :
    EveryStep (GuestStep.apply {} onlyLoads idleFirmware resetEfiHandoffLayoutGlobals)
      (GuestStep.OfCall fun p call => call.RunsSlot idleFirmware resetEfiHandoffLayoutGlobals true p)
      startedPlugin
      [loadSlot allocatePagesSlot, .serviceCall (callSlot allocatePagesSlot)] := by
  have htraces : (callSlot allocatePagesSlot).TracesName resetEfiHandoffLayoutGlobals true
      ((loadSlot allocatePagesSlot).apply {} onlyLoads idleFirmware resetEfiHandoffLayoutGlobals startedPlugin) :=
    ServiceCall.tracesName_of_last true resetEfiHandoffLayoutGlobals_placed
      (lastField_loadSlot startedPlugin allocatePagesSlot) (by decide +kernel)
      (fun _ => ⟨2, rfl⟩) (by decide +kernel) (by decide +kernel) (by decide +kernel)
  exact (everyCall_runsSlot_iff {} onlyLoads idleFirmware resetEfiHandoffLayoutGlobals true startedPlugin
    [loadSlot allocatePagesSlot, .serviceCall (callSlot allocatePagesSlot)] resetEfiHandoffLayoutGlobals_placed
    ⟨trivial, throughSlot_callSlot _ (by decide), trivial⟩).mpr ⟨trivial, htraces, trivial⟩

/-- **The last load decides.** After the loads of both pointers, a call of that of `AllocatePages` runs `RaiseTPL`. -/
theorem callAfterLoads_runs_RaiseTPL :
    EveryStep (GuestStep.apply {} onlyLoads idleFirmware resetEfiHandoffLayoutGlobals)
        (GuestStep.OfCall fun p call => call.ThroughSlot resetEfiHandoffLayoutGlobals true p)
        startedPlugin callAfterLoads ∧
      ¬ EveryStep (GuestStep.apply {} onlyLoads idleFirmware resetEfiHandoffLayoutGlobals)
        (GuestStep.OfCall fun p call => call.RunsSlot idleFirmware resetEfiHandoffLayoutGlobals true p)
        startedPlugin callAfterLoads := by
  refine ⟨throughSlot_callAfterLoads, ?_⟩
  rintro ⟨-, -, hruns, -⟩
  have hchosen := hruns.chosen
  revert hchosen
  decide +kernel


end GuideXOS.Isa
