import GuideXOS.Core.BackingStore
import GuideXOS.Core.Mmu
import GuideXOS.Isa.FixedTruncation
import GuideXOS.Isa.FusedArithmetic

/-!
# `ExecuteCases` — the instructions one by one

The `switch` of `InstructionEx::Execute`. Cases of one shape are one definition here, and `switchCase` sorts the
operations into them; inside, an operation keeps a line of its own.

Every register operand is read through a `RegisterView` at the place where the source reads it, and what is written
goes to the processor. `RegisterView.sequential` is the source: an access sees what the instruction has written so
far. `RegisterView.snapshot` is what an instruction ought to see, the registers as they were when it began.
-/

namespace GuideXOS.Core.CPUState

/-! ## Registers the other modules do not use -/

variable (s : CPUState)

/-- **`GetCPUID`.** An index past the implemented registers throws. -/
def getCPUID (index : UInt64) : Option UInt64 := s.cpuid[index.toNat]?

def setRR (index : Fin 8) (value : UInt64) : CPUState := { s with rr := s.rr.set index value (Lib.Words.fin_lt_8 index) }

def setITR (index : Fin 256) (physicalAddress virtualAddress itir regionValue : UInt64) : CPUState :=
  { s with itr := s.itr.set index ⟨physicalAddress, virtualAddress, itir, regionValue, true⟩ (Lib.Words.fin_lt_256 index) }

def setDTR (index : Fin 256) (physicalAddress virtualAddress itir regionValue : UInt64) : CPUState :=
  { s with dtr := s.dtr.set index ⟨physicalAddress, virtualAddress, itir, regionValue, true⟩ (Lib.Words.fin_lt_256 index) }

def getPRUnrotated (index : Fin 64) : Bool := s.pr.getPhysical index

def setPRUnrotated (index : Fin 64) (value : Bool) : CPUState :=
  { s with pr := s.pr.setPhysical index value }

end GuideXOS.Core.CPUState

namespace GuideXOS.Isa
open Lib Lib.Words GuideXOS.Core GuideXOS.Decoder

/-- The processor as it is. -/
def RegisterView.sequential : RegisterView := id

/-- The registers as they were. -/
def RegisterView.snapshot (before : CPUState) : RegisterView := fun _ => before

/-! ## Operands -/

/-- A branch register operand. -/
def branchField (field : UInt8) : Fin 8 := Fin.ofNat 8 field.toNat

section Operands
variable (view : RegisterView) (instr : InstructionEx) (cpu : CPUState)

def gr1 : UInt64 := (view cpu).getGR (registerField instr.src1)
def gr2 : UInt64 := (view cpu).getGR (registerField instr.src2)
def nat1 : Bool := (view cpu).getGRNaT (registerField instr.src1)
def nat2 : Bool := (view cpu).getGRNaT (registerField instr.src2)

def writeGR (value : UInt64) : CPUState := cpu.setGR (registerField instr.dst) value
def writeGRNaT (nat : Bool) : CPUState := cpu.setGRNaT (registerField instr.dst) nat

theorem gr1_sequential : gr1 .sequential instr cpu = cpu.getGR (registerField instr.src1) := rfl
theorem gr1_snapshot (original : CPUState) : gr1 (.snapshot original) instr cpu = original.getGR (registerField instr.src1) := rfl

end Operands

/-! ## Integers -/

/-- The number of ones. -/
def popcount (x : UInt64) : UInt64 := UInt64.ofNat ((List.range 64).countP fun i => x.toNat.testBit i)

/-- Where the field of `EXTR` and the deposits lies. -/
def fieldPosition (immediate : UInt64) : UInt64 := immediate &&& 0x3F

/-- As many ones as the field is long. -/
def fieldMask (immediate : UInt64) : UInt64 :=
  let len := ((immediate >>> 6) &&& 0x3F) + 1
  if len ≥ 64 then ~~~0 else ((1 : UInt64) <<< len) - 1

/-- What `DEP` deposits: a sign or a register. -/
def depositSource (immediate r1 : UInt64) : UInt64 :=
  if (immediate >>> 12) &&& 1 ≠ 0 then (if (immediate >>> 13) &&& 1 ≠ 0 then ~~~0 else 0) else r1

/-- The operations that write one general register and let its NaT bit be cleared. A form that lacks its immediate
    writes nothing. -/
def integerResult (instr : InstructionEx) (r1 r2 : UInt64) : Option UInt64 :=
  let imm := instr.immediate
  let withImmediate := fun v : UInt64 => if instr.hasImmediate then some v else none
  match instr.type with
  | .MOV_GR => some r1
  | .MOV_IMM | .MOVL => withImmediate imm
  | .ADD => some (r1 + r2)
  | .ADD_P1 => some (r1 + r2 + 1)
  | .ADD_IMM | .ADDL => withImmediate (r1 + imm)
  | .SUB => some (r1 - r2)
  | .SUB_M1 => some (r1 - r2 - 1)
  | .SUB_IMM => withImmediate (imm - r2)
  | .AND => some (r1 &&& r2)
  | .AND_IMM => withImmediate (imm &&& r2)
  | .OR => some (r1 ||| r2)
  | .OR_IMM => withImmediate (imm ||| r2)
  | .XOR => some (r1 ^^^ r2)
  | .XOR_IMM => withImmediate (imm ^^^ r2)
  | .ANDCM => some (r1 &&& ~~~r2)
  | .ANDCM_IMM => withImmediate (imm &&& ~~~r2)
  | .SHR => some (r1 >>> (r2 &&& 0x3F))
  | .SHRA => some (r1.toInt64 >>> (r2 &&& 0x3F).toInt64).toUInt64
  | .POPCNT => some (popcount r1)
  | .SHLADD => withImmediate ((r1 <<< (imm &&& 0x3F)) + r2)
  | .EXTR => withImmediate ((r1 >>> fieldPosition imm) &&& fieldMask imm)
  | .DEP =>
      let mask := fieldMask imm <<< fieldPosition imm
      withImmediate ((r2 &&& ~~~mask) ||| ((depositSource imm r1 <<< fieldPosition imm) &&& mask))
  | .DEP_Z => withImmediate ((r1 <<< fieldPosition imm) &&& (fieldMask imm <<< fieldPosition imm))
  | .ZXT1 => some (r1 &&& 0xFF)
  | .ZXT2 => some (r1 &&& 0xFFFF)
  | .ZXT4 => some (r1 &&& 0xFFFFFFFF)
  | .SXT1 => some (signExtend (r1 &&& 0xFF) 8)
  | .SXT2 => some (signExtend (r1 &&& 0xFFFF) 16)
  | .SXT4 => some (signExtend (r1 &&& 0xFFFFFFFF) 32)
  | _ => none

/-- The selectors of `MUX1` besides the broadcast. -/
def mux1Table (immediate : UInt64) : Option (List Nat) :=
  if immediate &&& 0xF = 0x8 then some [0, 4, 2, 6, 1, 5, 3, 7]
  else if immediate &&& 0xF = 0x9 then some [0, 4, 1, 5, 2, 6, 3, 7]
  else if immediate &&& 0xF = 0xA then some [0, 2, 4, 6, 1, 3, 5, 7]
  else if immediate &&& 0xF = 0xB then some [7, 6, 5, 4, 3, 2, 1, 0]
  else none

/-- The bytes of the source, permuted; without a table the lowest one, eight times. -/
def mux1 (source immediate : UInt64) : UInt64 :=
  let bytes := bytesOfWord 8 source
  wordOfBytes (((mux1Table immediate).getD (List.replicate 8 0)).map fun i => bytes.getD i 0)

/-- The index of the lowest zero byte, or 8. -/
def czx1 (source : UInt64) : UInt64 := UInt64.ofNat ((bytesOfWord 8 source).findIdx (· = 0))

/-- `SHRP`: the two words shifted right as one. -/
def shiftPair (high low count : UInt64) : UInt64 :=
  if count = 0 then low else (low >>> count) ||| (high <<< (64 - count))

section Integers
variable (view : RegisterView) (instr : InstructionEx) (cpu : CPUState)

def executeInteger : CPUState :=
  match integerResult instr (gr1 view instr cpu) (gr2 view instr cpu) with
  | some result => writeGR instr cpu result
  | none => cpu

/-- **`ExecuteAddp4`** and its call: the values and NaT bits are arguments. -/
def executeAddp4 : CPUState :=
  let (first, firstNat, base, baseNat) := if instr.hasImmediate
    then (instr.immediate, false, gr1 view instr cpu, nat1 view instr cpu)
    else (gr1 view instr cpu, nat1 view instr cpu, gr2 view instr cpu, nat2 view instr cpu)
  let low32 := (first + base) &&& 0xFFFFFFFF
  let regionBits := ((base >>> 30) &&& 3) <<< 61
  writeGRNaT instr (writeGR instr cpu (low32 ||| regionBits)) (firstNat || baseNat)

/-- The case **`SHL`**: the NaT bits are read after the result is written. -/
def executeShl : CPUState :=
  let count := (if instr.hasImmediate then instr.immediate else gr2 view instr cpu) &&& 0x3F
  let cpu := writeGR instr cpu (gr1 view instr cpu <<< count)
  writeGRNaT instr cpu (nat1 view instr cpu || !instr.hasImmediate && nat2 view instr cpu)

/-- The case **`MUX1`**: so is its NaT bit. -/
def executeMux1 : CPUState :=
  let cpu := writeGR instr cpu (mux1 (gr1 view instr cpu) instr.immediate)
  writeGRNaT instr cpu (nat1 view instr cpu)

/-- The case **`CZX1_R`**. -/
def executeCzx1 : CPUState :=
  let cpu := writeGR instr cpu (czx1 (gr1 view instr cpu))
  writeGRNaT instr cpu (nat1 view instr cpu)

/-- The case **`SHRP`**. -/
def executeShrp : CPUState :=
  if instr.hasImmediate then
    let cpu := writeGR instr cpu
      (shiftPair (gr1 view instr cpu) (gr2 view instr cpu) (instr.immediate &&& 0x3F))
    writeGRNaT instr cpu (nat1 view instr cpu || nat2 view instr cpu)
  else cpu

end Integers

/-! ## Predicates -/

/-- **`writeComparePredicates`.** -/
def writeComparePredicates (instr : InstructionEx) (result : Bool) (cpu : CPUState) : CPUState :=
  let p1 := predicateField instr.dst
  let p2 := predicateField instr.src3
  match instr.compareCompleter with
  | .NORMAL | .UNC => (cpu.setPR p1 result).setPR p2 (!result)
  | .AND => if result then cpu else (cpu.setPR p1 false).setPR p2 false
  | .OR => if result then (cpu.setPR p1 true).setPR p2 true else cpu
  | .OR_ANDCM => if result then (cpu.setPR p1 true).setPR p2 false else cpu

/-- What the comparisons compare: words, their signed values, and the lower halves of words. -/
def compareResult (type : InstructionType) (lhs rhs : UInt64) : Bool :=
  match type with
  | .CMP_EQ => lhs = rhs
  | .CMP_NE => lhs ≠ rhs
  | .CMP_LT => lhs.toInt64 < rhs.toInt64
  | .CMP_LE => lhs.toInt64 ≤ rhs.toInt64
  | .CMP_GT => lhs.toInt64 > rhs.toInt64
  | .CMP_GE => lhs.toInt64 ≥ rhs.toInt64
  | .CMP_LTU => lhs < rhs
  | .CMP_LEU => lhs ≤ rhs
  | .CMP_GTU => lhs > rhs
  | .CMP_GEU => lhs ≥ rhs
  | .CMP4_EQ => lhs.toUInt32 = rhs.toUInt32
  | .CMP4_NE => lhs.toUInt32 ≠ rhs.toUInt32
  | .CMP4_LT => lhs.toUInt32.toInt32 < rhs.toUInt32.toInt32
  | .CMP4_LE => lhs.toUInt32.toInt32 ≤ rhs.toUInt32.toInt32
  | .CMP4_GT => lhs.toUInt32.toInt32 > rhs.toUInt32.toInt32
  | .CMP4_GE => lhs.toUInt32.toInt32 ≥ rhs.toUInt32.toInt32
  | .CMP4_LTU => lhs.toUInt32 < rhs.toUInt32
  | .CMP4_LEU => lhs.toUInt32 ≤ rhs.toUInt32
  | .CMP4_GTU => lhs.toUInt32 > rhs.toUInt32
  | .CMP4_GEU => lhs.toUInt32 ≥ rhs.toUInt32
  | _ => false

section Predicates
variable (view : RegisterView) (instr : InstructionEx) (cpu : CPUState)

def executeCompare : CPUState :=
  let lhs := if instr.hasImmediate then instr.immediate else gr1 view instr cpu
  writeComparePredicates instr (compareResult instr.type lhs (gr2 view instr cpu)) cpu

/-- The cases **`TBIT_Z`** and `TBIT_NZ`. -/
def executeTbit : CPUState :=
  if instr.hasImmediate then
    let bit := (gr1 view instr cpu >>> (instr.immediate &&& 0x3F)) &&& 1
    let condition : Bool := if instr.type = .TBIT_Z then bit = 0 else bit ≠ 0
    if instr.compareCompleter = .OR_ANDCM then writeComparePredicates instr condition cpu
    else (cpu.setPR (predicateField instr.dst) condition).setPR (predicateField instr.src3) (!condition)
  else cpu

/-- The cases **`TNAT_Z`** and `TNAT_NZ`. -/
def executeTnat : CPUState :=
  let nat := nat1 view instr cpu
  let condition := if instr.type = .TNAT_Z then !nat else nat
  if instr.compareCompleter = .NORMAL ∨ instr.compareCompleter = .UNC then
    (cpu.setPR (predicateField instr.dst) condition).setPR (predicateField instr.src3) (!condition)
  else writeComparePredicates instr condition cpu

end Predicates

/-! ## Moves between the register files -/

section Moves
variable (view : RegisterView) (instr : InstructionEx) (cpu : CPUState)

/-- The predicates as one word. `PR0` is one. -/
def predicateWord (cpu : CPUState) : UInt64 :=
  (List.range' 1 63).foldl
    (fun value i => if cpu.getPRUnrotated (Fin.ofNat 64 i) then value ||| ((1 : UInt64) <<< UInt64.ofNat i) else value) 1

/-- The predicates from a bit on that the mask selects, written from a word. -/
def writePredicates (value mask : UInt64) (start : Nat) (cpu : CPUState) : CPUState :=
  (List.range' start (64 - start)).foldl
    (fun cpu i =>
      if (mask >>> UInt64.ofNat i) &&& 1 ≠ 0 then
        cpu.setPRUnrotated (Fin.ofNat 64 i) ((value >>> UInt64.ofNat i) &&& 1 != 0)
      else cpu) cpu

/-- The bits 61 to 63 that select a region register. -/
def regionField (value : UInt64) : Fin 8 := Fin.ofNat 8 ((value >>> 61) &&& 7).toNat

def executeMove : ExecuteEnd × CPUState :=
  let r1 := gr1 view instr cpu
  match instr.type with
  | .MOV_FROM_BR => (.done, writeGR instr cpu ((view cpu).getBR (branchField instr.src1)))
  | .MOV_TO_BR => (.done, cpu.setBR (branchField instr.dst) r1)
  | .MOV_FROM_AR => (.done, writeGR instr cpu ((view cpu).getAR (registerField instr.src1)))
  | .MOV_TO_AR =>
      let value := if instr.hasImmediate then instr.immediate else r1
      (.done, if instr.dst = 18 then cpu.writeBSPSTORE value else cpu.setAR (registerField instr.dst) value)
  | .MOV_FROM_PSR => (.done, writeGR instr cpu (view cpu).psr)
  | .MOV_TO_PSR => (.done, cpu.setPSR (((view cpu).psr &&& ~~~0xFFFFFFFF) ||| (r1 &&& 0xFFFFFFFF)))
  | .MOV_FROM_CPUID =>
      match (view cpu).getCPUID (r1 &&& 0xFF) with
      | some value => (.done, writeGR instr cpu value)
      | none => (.threw, cpu)
  | .MOV_FROM_RR => (.done, writeGR instr cpu ((view cpu).getRR (regionField r1)))
  | .MOV_TO_RR => (.done, cpu.setRR (regionField ((view cpu).getGR (registerField instr.dst))) r1)
  | .MOV_FROM_CR => (.done, writeGR instr cpu ((view cpu).getCR (registerField instr.src1)))
  | .MOV_TO_CR => (.done, cpu.setCR (registerField instr.dst) r1)
  | .MOV_FROM_PMC => (.done, writeGR instr cpu 0)
  | .MOV_FROM_PR => (.done, writeGR instr cpu (predicateWord (view cpu)))
  | .MOV_FROM_IP => (.done, writeGR instr cpu (architecturalInstructionPointer (view cpu)))
  | .MOV_TO_PR => (.done, writePredicates r1 (if instr.hasImmediate then instr.immediate else ~~~0) 1 cpu)
  | .MOV_TO_PR_ROT => (.done, writePredicates instr.immediate (~~~0) 16 cpu)
  | _ => (.done, cpu)

/-- The cases **`GETF_SIG`**, `GETF_EXP` and `SETF_SIG`. -/
def executeTransfer : CPUState :=
  let fr := (view cpu).getFR (registerField instr.src1)
  match instr.type with
  | .GETF_SIG => writeGR instr cpu (readLittleEndian64 fr 0)
  | .GETF_EXP =>
      let signAndExponent := readLittleEndian64 fr 8
      let exponent : UInt64 := signAndExponent &&& 0x1FFFF
      let sign : UInt64 := (signAndExponent >>> 17) &&& 1
      let value := exponent ||| (sign <<< 17)
      writeGRNaT instr (writeGR instr cpu value) (isNatVal fr)
  | .SETF_SIG =>
      cpu.setFR (registerField instr.dst)
        (if nat1 view instr cpu then natValBytes else frBytes (gr1 view instr cpu) 0x1003E)
  | _ => cpu

end Moves

/-! ## Translation and the processor status -/

section System
variable (view : RegisterView) (instr : InstructionEx) (cpu : CPUState)

/-- An insertion that is refused throws. -/
def insertionEnd (cpu : CPUState) : Except String CPUState → ExecuteEnd × CPUState
  | .ok inserted => (.done, inserted)
  | .error _ => (.threw, cpu)

/-- The translation registers, the TLBs and the hash of the page table. -/
def executeTranslation : ExecuteEnd × CPUState :=
  let virtualAddress := (view cpu).getCR 20
  let itir := (view cpu).getCR 21
  let regionValue := (view cpu).getRR (regionField virtualAddress)
  let selector := Fin.ofNat 256 (((view cpu).getGR (registerField instr.dst)) &&& 0xFF).toNat
  let r1 := gr1 view instr cpu
  match instr.type with
  | .ITR_I => (.done, cpu.setITR selector r1 virtualAddress itir regionValue)
  | .ITR_D => (.done, cpu.setDTR selector r1 virtualAddress itir regionValue)
  | .ITC_I => insertionEnd cpu (cpu.insertITLB r1 virtualAddress itir regionValue)
  | .ITC_D => insertionEnd cpu (cpu.insertDTLB r1 virtualAddress itir regionValue)
  | .THASH =>
      match computeIA64ShortVhptAddress (view cpu) r1 with
      | .ok address => (.done, writeGR instr cpu address)
      | .error _ => (.threw, cpu)
  | .PTC_L =>
      let pageShift := (gr2 view instr cpu >>> 2) &&& 0x3F
      let rid := regionIdOf ((view cpu).getRR (regionField r1))
      (.done, (cpu.purgeITLB r1 pageShift rid).purgeDTLB r1 pageShift rid)
  | _ => (.done, cpu)

def kPsrSystemMask : UInt64 := 0xFFFFFF
def kPsrInterruptionCollection : UInt64 := (1 : UInt64) <<< 13
def kFrameMarkerMask : UInt64 := 0x3FFFFFFFFF
def kIfsValid : UInt64 := (1 : UInt64) <<< 63
def kRrbGrMask : UInt64 := (0x7F : UInt64) <<< 18
def kRrbFrMask : UInt64 := (0x7F : UInt64) <<< 25
def kRrbPrMask : UInt64 := (0x3F : UInt64) <<< 32

/-- The processor status, the frame marker and the register stack. -/
def executeSystem : ExecuteEnd × CPUState :=
  let psr := (view cpu).psr
  let cfm := (view cpu).cfm
  let imm := instr.immediate
  match instr.type with
  | .SSM =>
      (.done, cpu.setPSR ((psr &&& ~~~kPsrSystemMask) ||| ((psr &&& kPsrSystemMask) ||| (imm &&& kPsrSystemMask))))
  | .RSM =>
      (.done, cpu.setPSR ((psr &&& ~~~kPsrSystemMask) ||| ((psr &&& kPsrSystemMask) &&& ~~~(imm &&& kPsrSystemMask))))
  | .RFI =>
      let cpu := cpu.setPSR ((view cpu).getCR 16)
      (.done, cpu.setIP ((view cpu).getCR 19 &&& ~~~0xF))
  | .BSW => (.done, cpu.setPSR ((psr &&& ~~~IA64_PSR_BN_MASK) ||| if imm &&& 1 ≠ 0 then IA64_PSR_BN_MASK else 0))
  | .COVER =>
      let cpu := if psr &&& kPsrInterruptionCollection = 0 then
          cpu.setCR 23 ((cfm &&& kFrameMarkerMask) ||| kIfsValid)
        else cpu
      (.done, cpu.setCFM (cfm &&& ~~~kFrameMarkerMask))
  | .CLRRB =>
      (.done, cpu.setCFM (cfm &&& ~~~(if imm ≠ 0 then kRrbPrMask else kRrbGrMask ||| kRrbFrMask ||| kRrbPrMask)))
  | .FLUSHRS => (.done, cpu.setAR 18 (view cpu).getBSP)
  | .ALLOC =>
      if instr.hasImmediate then
        match CPUState.allocFrame imm with
        | none => (.threw, cpu)
        | some frame =>
            let oldPfs := (view cpu).getAR 64
            let cpu := writeGR instr cpu (if oldPfs = 0 then cfm else oldPfs)
            (.done, (cpu.setAR 64 cfm).setCFM frame)
      else (.done, cpu)
  | _ => (.done, cpu)

/-- The register effects of the branches. -/
def executeBranchCase : CPUState :=
  match instr.type with
  | .BR_CALL => cpu.setBR (branchField instr.dst) (architecturalInstructionPointer (view cpu) + 16)
  | .BR_CLOOP => if (view cpu).getAR 65 ≠ 0 then cpu.setAR 65 ((view cpu).getAR 65 - 1) else cpu
  | .BR_CTOP => cpu.executeBrCTop.2
  | .BR_CEXIT => cpu.executeBrCExit.2
  | _ => cpu

end System

/-! ## Memory -/

/-- What the execution reports for an exception of an access. -/
def accessEnd : DataAccessException → ExecuteEnd
  | .translation (.fault f) => .fault f
  | _ => .threw

/-- The same for an address that is only translated. -/
def translationEnd : TranslationException → ExecuteEnd
  | .fault f => .fault f
  | _ => .threw

/-- The low bytes of a word. -/
def lowBytes (width : Nat) (x : UInt64) : UInt64 := wordOfBytes (bytesOfWord width x)

section Accesses
variable {M : Type} [IMemory M] (view : RegisterView) (instr : InstructionEx) (cpu : CPUState) (memory : M)

/-- The loads **`LD1`** to `LD8` and their speculative forms. The increment is read after the loaded value is
    written. -/
def executeLoad (width : Nat) : ExecuteEnd × CPUState :=
  let baseAddress := gr1 view instr cpu
  match readData cpu memory baseAddress width with
  | (.error e, cpu) => (accessEnd e, cpu)
  | (.ok bytes, cpu) =>
      let cpu := writeGR instr cpu (wordOfBytes bytes)
      let base := registerField instr.src1
      if instr.hasImmediate then (.done, cpu.setGR base (baseAddress + instr.immediate))
      else if instr.src2 ≠ 0 then (.done, cpu.setGR base (baseAddress + gr2 view instr cpu))
      else (.done, cpu)

/-- The update of the base register by `LFETCH`. -/
def updateBase : CPUState :=
  if instr.registerUpdate then
    let increment := if instr.hasImmediate then instr.immediate else gr2 view instr cpu
    cpu.setGR (registerField instr.src1) (gr1 view instr cpu + increment)
  else cpu

/-- The case **`LFETCH`**: only the faulting form accesses memory. -/
def executeLfetch : ExecuteEnd × CPUState :=
  if instr.lfetchFault then
    match readData cpu memory (gr1 view instr cpu) 1 with
    | (.error e, cpu) => (accessEnd e, cpu)
    | (.ok _, cpu) => (.done, updateBase view instr cpu)
  else (.done, updateBase view instr cpu)

/-- The semaphores: a load, then the store of `newValue`, if there is one, given the value loaded. The old value is
    written when both are done. -/
def executeSemaphore (width : Nat) (newValue : CPUState → UInt64 → Option UInt64) : ExecuteEnd × CPUState × M :=
  let address := gr1 view instr cpu
  match readData cpu memory address width with
  | (.error e, cpu) => (accessEnd e, cpu, memory)
  | (.ok bytes, cpu) =>
      let oldValue := wordOfBytes bytes
      let stored := match newValue cpu oldValue with
        | some value => writeData cpu memory address (bytesOfWord width value)
        | none => (.ok (), cpu, memory)
      match stored with
      | (.error e, cpu, memory) => (accessEnd e, cpu, memory)
      | (.ok (), cpu, memory) => (.done, writeGRNaT instr (writeGR instr cpu oldValue) false, memory)

/-- The cases **`CMPXCHG4_ACQ`**, `CMPXCHG8_ACQ` and their release forms. -/
def executeCmpxchg (width : Nat) : ExecuteEnd × CPUState × M :=
  executeSemaphore view instr cpu memory width fun cpu oldValue =>
    if oldValue = lowBytes width ((view cpu).getAR 32) then some (gr2 view instr cpu) else none

/-- The case **`XCHG4`**. -/
def executeXchg4 : ExecuteEnd × CPUState × M :=
  executeSemaphore view instr cpu memory 4 fun cpu _ => some (gr2 view instr cpu)

/-- The cases **`FETCHADD4_ACQ`** and `FETCHADD4_REL`. -/
def executeFetchadd4 : ExecuteEnd × CPUState × M :=
  executeSemaphore view instr cpu memory 4 fun _ oldValue => some (oldValue + instr.immediate)

/-- A store at the address in the first operand, which is moved on by the immediate. -/
def executeStoreBytes (bytes : List UInt8) : ExecuteEnd × CPUState × M :=
  let base := registerField instr.dst
  let baseAddress := (view cpu).getGR base
  match writeData cpu memory baseAddress bytes with
  | (.error e, cpu, memory) => (accessEnd e, cpu, memory)
  | (.ok (), cpu, memory) =>
      (.done, if instr.hasImmediate then cpu.setGR base (baseAddress + instr.immediate) else cpu, memory)

/-- The cases **`ST1`** to `ST8`. -/
def executeStore (width : Nat) : ExecuteEnd × CPUState × M :=
  executeStoreBytes view instr cpu memory (bytesOfWord width (gr1 view instr cpu))

/-- The case **`LDF_FILL`**. -/
def executeFill : ExecuteEnd × CPUState :=
  let base := registerField instr.src1
  let baseAddress := (view cpu).getGR base
  match readData cpu memory baseAddress 16 with
  | (.error e, cpu) => (accessEnd e, cpu)
  | (.ok bytes, cpu) =>
      let cpu := cpu.setFR (registerField instr.dst) (Vector.ofFn fun i => bytes.getD i 0)
      (.done, if instr.hasImmediate then cpu.setGR base (baseAddress + instr.immediate) else cpu)

/-- The case **`STF8`**: the significand, and no store of a `NaTVal`. -/
def executeStf8 : ExecuteEnd × CPUState × M :=
  let fr := (view cpu).getFR (registerField instr.src1)
  if isNatVal fr then (.threw, cpu, memory)
  else executeStoreBytes view instr cpu memory (fr.toList.take 8)

/-- The case **`STF_SPILL`**: the register as it is. -/
def executeSpill : ExecuteEnd × CPUState × M :=
  executeStoreBytes view instr cpu memory ((view cpu).getFR (registerField instr.src1)).toList

/-- The case **`FC`**. `mmu` is that of the memory, if it is the concrete `Memory`. -/
def executeFc (mmu : Option MMU) : ExecuteEnd × CPUState :=
  match mmu with
  | none => (.done, cpu)
  | some mmu =>
      match translateDataAddress cpu memory (gr1 view instr cpu) .READ with
      | .error e => (translationEnd e, cpu)
      | .ok (translated, cpu) =>
          match mmu.translateAddress translated.physicalAddress with
          | .error _ => (.threw, cpu)
          | .ok _ =>
              let cpl : UInt64 := ((view cpu).psr >>> 32) &&& 3
              if cpl ≠ 0 then
                match mmu.checkPermissionOrThrow translated.physicalAddress .READ with
                | .error _ => (.threw, cpu)
                | .ok () => (.done, cpu)
              else (.done, cpu)

/-- The case **`TPA`**. -/
def executeTpa : ExecuteEnd × CPUState :=
  match translateDataAddress cpu memory (gr1 view instr cpu) .READ true with
  | .error e => (translationEnd e, cpu)
  | .ok (translated, cpu) => (.done, writeGRNaT instr (writeGR instr cpu translated.physicalAddress) false)

end Accesses

/-! ## The `switch` -/

/-- The cases, by what they do. -/
inductive SwitchCase
  | nothing | integer | addp4 | shl | mux1 | czx1 | shrp | compare | tbit | tnat | move | transfer | translation
  | system | branch | fcvtFxu | fcvtFx | fused | reciprocal | xma | load (width : Nat) | lfetch
  | cmpxchg (width : Nat) | xchg4 | fetchadd4 | store (width : Nat) | fill | stf8 | spill | fc | tpa

/-- The case of an operation. The orderings and the checks have nothing to do, and what is not implemented neither. -/
def switchCase : InstructionType → SwitchCase
  | .MOV_GR | .MOV_IMM | .MOVL | .ADD | .ADD_P1 | .ADD_IMM | .ADDL | .SUB | .SUB_M1 | .SUB_IMM | .AND | .AND_IMM | .OR
  | .OR_IMM | .XOR | .XOR_IMM | .ANDCM | .ANDCM_IMM | .SHR | .SHRA | .POPCNT | .SHLADD | .EXTR | .DEP | .DEP_Z | .ZXT1
  | .ZXT2 | .ZXT4 | .SXT1 | .SXT2 | .SXT4 => .integer
  | .ADDP4 => .addp4
  | .SHL => .shl
  | .MUX1 => .mux1
  | .CZX1_R => .czx1
  | .SHRP => .shrp
  | .CMP_EQ | .CMP_NE | .CMP_LT | .CMP_LE | .CMP_GT | .CMP_GE | .CMP_LTU | .CMP_LEU | .CMP_GTU | .CMP_GEU | .CMP4_EQ
  | .CMP4_NE | .CMP4_LT | .CMP4_LE | .CMP4_GT | .CMP4_GE | .CMP4_LTU | .CMP4_LEU | .CMP4_GTU | .CMP4_GEU => .compare
  | .TBIT_Z | .TBIT_NZ => .tbit
  | .TNAT_Z | .TNAT_NZ => .tnat
  | .MOV_FROM_BR | .MOV_TO_BR | .MOV_FROM_AR | .MOV_TO_AR | .MOV_FROM_PSR | .MOV_TO_PSR | .MOV_FROM_CPUID | .MOV_FROM_RR
  | .MOV_TO_RR | .MOV_FROM_CR | .MOV_TO_CR | .MOV_FROM_PMC | .MOV_FROM_PR | .MOV_FROM_IP | .MOV_TO_PR
  | .MOV_TO_PR_ROT => .move
  | .GETF_SIG | .GETF_EXP | .SETF_SIG => .transfer
  | .ITR_I | .ITR_D | .ITC_I | .ITC_D | .THASH | .PTC_L => .translation
  | .SSM | .RSM | .RFI | .BSW | .COVER | .CLRRB | .FLUSHRS | .ALLOC => .system
  | .BR_CALL | .BR_CLOOP | .BR_CTOP | .BR_CEXIT => .branch
  | .FCVT_FXU => .fcvtFxu
  | .FCVT_FX => .fcvtFx
  | .FMA | .FMS | .FNMA => .fused
  | .FRCPA | .FRSQRTA => .reciprocal
  | .XMA | .XMA_H | .XMA_HU => .xma
  | .LD1 | .LD1_S => .load 1
  | .LD2 | .LD2_S => .load 2
  | .LD4 | .LD4_S => .load 4
  | .LD8 | .LD8_S => .load 8
  | .LFETCH => .lfetch
  | .CMPXCHG4_ACQ | .CMPXCHG4_REL => .cmpxchg 4
  | .CMPXCHG8_ACQ | .CMPXCHG8_REL => .cmpxchg 8
  | .XCHG4 => .xchg4
  | .FETCHADD4_ACQ | .FETCHADD4_REL => .fetchadd4
  | .ST1 => .store 1
  | .ST2 => .store 2
  | .ST4 => .store 4
  | .ST8 => .store 8
  | .LDF_FILL => .fill
  | .STF8 => .stf8
  | .STF_SPILL => .spill
  | .FC => .fc
  | .TPA => .tpa
  | _ => .nothing

/-- What the instructions use of the host: its floating-point numbers, and the MMU of a memory that is the concrete
    `Memory`. -/
structure ExecuteHost (M F : Type) where
  longDouble : LongDouble F
  getMMU : M → Option MMU

section Switch
variable {M F : Type} [IMemory M] (host : ExecuteHost M F) (view : RegisterView)

/-- **The `switch` of `Execute`.** -/
def executeSwitch : ExecuteCases M := fun instr cpu memory =>
  let ends := fun cpu : CPUState => (ExecuteEnd.done, cpu, memory)
  let endsWith := fun r : ExecuteEnd × CPUState => (r.1, r.2, memory)
  match switchCase instr.type with
  | .nothing => ends cpu
  | .integer => ends (executeInteger view instr cpu)
  | .addp4 => ends (executeAddp4 view instr cpu)
  | .shl => ends (executeShl view instr cpu)
  | .mux1 => ends (executeMux1 view instr cpu)
  | .czx1 => ends (executeCzx1 view instr cpu)
  | .shrp => ends (executeShrp view instr cpu)
  | .compare => ends (executeCompare view instr cpu)
  | .tbit => ends (executeTbit view instr cpu)
  | .tnat => ends (executeTnat view instr cpu)
  | .move => endsWith (executeMove view instr cpu)
  | .transfer => ends (executeTransfer view instr cpu)
  | .translation => endsWith (executeTranslation view instr cpu)
  | .system => endsWith (executeSystem view instr cpu)
  | .branch => ends (executeBranchCase view instr cpu)
  | .fcvtFxu => ends (executeFcvtFxu view instr cpu)
  | .fcvtFx => ends (executeFcvtFx view instr cpu)
  | .fused => ends (executeFusedArithmetic view instr cpu)
  | .reciprocal => ends (executeReciprocalApproximation host.longDouble view instr cpu)
  | .xma => ends (executeXma view instr cpu)
  | .load width => endsWith (executeLoad view instr cpu memory width)
  | .lfetch => endsWith (executeLfetch view instr cpu memory)
  | .cmpxchg width => executeCmpxchg view instr cpu memory width
  | .xchg4 => executeXchg4 view instr cpu memory
  | .fetchadd4 => executeFetchadd4 view instr cpu memory
  | .store width => executeStore view instr cpu memory width
  | .fill => endsWith (executeFill view instr cpu memory)
  | .stf8 => executeStf8 view instr cpu memory
  | .spill => executeSpill view instr cpu memory
  | .fc => endsWith (executeFc view instr cpu memory (host.getMMU memory))
  | .tpa => endsWith (executeTpa view instr cpu memory)

/-- **`Execute`** through a view of the registers. -/
def executeViewed (instr : InstructionEx) (cpu : CPUState) (memory : M) (ignorePredicate : Bool) :
    ExecuteEnd × CPUState × M :=
  if qualifies instr cpu ignorePredicate = false then (.done, nullify instr cpu, memory)
  else executeSwitch host view instr cpu memory

/-- The eight-byte loads are the loads of eight bytes. -/
theorem executeLoad_eight (instr : InstructionEx) (cpu : CPUState) (memory : M) :
    executeLoad .sequential instr cpu memory 8 = executeLoad8 instr cpu memory := by
  unfold executeLoad executeLoad8
  dsimp only
  rw [gr1_sequential]
  rcases readData cpu memory (cpu.getGR (registerField instr.src1)) 8 with ⟨(e | bytes), cpu'⟩
  · rcases e with (e | what)
    · cases e <;> rfl
    · rfl
  · rfl

/-- **`Execute` is the sequential execution.** -/
theorem execute_eq_sequential (instr : InstructionEx) (cpu : CPUState) (memory : M) (ignorePredicate : Bool) :
    execute (executeSwitch host .sequential) instr cpu memory ignorePredicate =
      executeViewed host .sequential instr cpu memory ignorePredicate := by
  unfold execute executeViewed
  split
  · rfl
  · split
    · next htype =>
      unfold executeSwitch
      rw [htype]
      show _ = ((executeLoad .sequential instr cpu memory 8).1, (executeLoad .sequential instr cpu memory 8).2, memory)
      rw [executeLoad_eight]
    · next htype =>
      unfold executeSwitch
      rw [htype]
      show _ = ((executeLoad .sequential instr cpu memory 8).1, (executeLoad .sequential instr cpu memory 8).2, memory)
      rw [executeLoad_eight]
    · rfl

/-- An instruction whose predicate is true is its case of the `switch`. -/
theorem execute_of_qualifies {instr : InstructionEx} {cpu : CPUState} {ignorePredicate : Bool}
    (h : qualifies instr cpu ignorePredicate = true) (memory : M) :
    execute (executeSwitch host .sequential) instr cpu memory ignorePredicate =
      executeSwitch host .sequential instr cpu memory := by
  rw [execute_eq_sequential]
  unfold executeViewed
  rw [h]
  rfl

end Switch

end GuideXOS.Isa
