import GuideXOS.Lib.ByteCodec
import GuideXOS.Core.CpuState

/-!
# `CheckpointCpu` — the processor in a checkpoint

The first section of a plugin checkpoint is the processor, register file by register file. The reader builds
a processor from nothing with the register setters, so a register that is hard-wired stays what it is
whatever the checkpoint says. Older versions of the format have fewer registers; they are read too.

`decodes_cpu` says that the section written for a processor is read back as that processor.
-/

namespace GuideXOS.Isa
open Lib Lib.Words Lib.Reader GuideXOS.Core

/-! ## The parts of a checkpoint -/

def kMaxCheckpointVectorEntries : Nat := 1000000
def kMaxCheckpointStringBytes : Nat := 1048576
def kMaxCheckpointBlobBytes : Nat := 64 * 1024 * 1024
def kIA64CheckpointBlobVersion : UInt32 := 5

/-- **`readFlag`.** A Boolean that must be written as one. -/
def readFlag : Reader Bool := do
  let raw ← u8
  requireValid
  require (raw ≤ 1)
  return raw != 0

/-- **`readSize`.** A host size; every 64-bit word is one. -/
def readSize : Reader UInt64 := do
  let raw ← u64
  requireValid
  return raw

/-- **`readCount`.** -/
def readCount : Reader Nat := do
  let raw ← readSize
  require (raw.toNat ≤ kMaxCheckpointVectorEntries)
  return raw.toNat

/-- A counted sequence. -/
def readEntries {α : Type} (r : Reader α) : Reader (List α) := do
  let count ← readCount
  times r count

/-- A counted sequence of entries of a map. -/
def readMap {ν : Type} (r : Reader (UInt64 × ν)) (put : OrdMap UInt64 ν → UInt64 × ν → Option (OrdMap UInt64 ν)) :
    Reader (OrdMap UInt64 ν) := do
  let count ← readCount
  timesInto r put count .empty

/-- An array, without its length. -/
def putArray {α : Type} {n : Nat} (put : α → List UInt8) (v : Vector α n) : List UInt8 := v.toList.flatMap put

theorem decodes_readFlag (v : Bool) : Decodes readFlag (putBool v) True v := by
  have h := (Decodes.u8 (if v then 1 else 0)).bind (f := fun raw => do
    requireValid
    require (raw ≤ 1)
    return raw != 0) (.requireValid (.require_of (by cases v <;> decide) .pure))
  rw [List.flatten_nil, List.append_nil] at h
  cases v <;> exact h.congr (by simp)

theorem decodes_readSize (v : UInt64) : Decodes readSize (putU64 v) True v := by
  have h := (Decodes.u64 v).bind (f := fun raw => do
    requireValid
    return raw) (.requireValid .pure)
  rw [List.flatten_nil, List.append_nil] at h
  exact h.congr (by simp)

section Sequences
variable {α β ν : Type} {put : α → List UInt8} {demand : α → Prop} {r : Reader α}

/-- A count in front of at least as many bytes. -/
theorem decodes_counted {b : List UInt8} {Q : Prop} {c : β} {n : Nat} {f : Nat → Reader β} (hn : n ≤ b.length)
    (hf : Decodes (f n) b Q c) :
    Decodes (readCount >>= f) (putSize n ++ b) (n ≤ kMaxCheckpointVectorEntries ∧ Q) c := by
  refine .of_short fun hlen => ?_
  have hsize := Decodes.toNat_size hn hlen
  have hcount := (decodes_readSize (UInt64.ofNat n)).bind (f := fun raw => do
    require (raw.toNat ≤ kMaxCheckpointVectorEntries)
    return raw.toNat) (.require fun _ => .pure)
  rw [List.flatten_nil, List.append_nil, hsize] at hcount
  exact (hcount.congr (by simp)).bind hf

/-- Elements of at least one byte are no more than their bytes. -/
theorem length_le_flatMap (hpos : ∀ x, 0 < (put x).length) (xs : List α) : xs.length ≤ (xs.flatMap put).length := by
  induction xs with
  | nil => exact Nat.le_refl 0
  | cons x xs ih =>
      have hx := hpos x
      rw [List.flatMap_cons, List.length_append, List.length_cons]
      omega

theorem decodes_readEntries (hpos : ∀ x, 0 < (put x).length) (h : ∀ x, Decodes r (put x) (demand x) x)
    (xs : List α) :
    Decodes (readEntries r) (putList put xs)
      (xs.length ≤ kMaxCheckpointVectorEntries ∧ ∀ x ∈ xs, demand x) xs :=
  decodes_counted (length_le_flatMap hpos xs) (.times h xs)

theorem decodes_readMap {r : Reader (UInt64 × ν)} {put : UInt64 × ν → List UInt8} {demand : UInt64 × ν → Prop}
    {into : OrdMap UInt64 ν → UInt64 × ν → Option (OrdMap UInt64 ν)}
    (hpos : ∀ x, 0 < (put x).length) (h : ∀ x, Decodes r (put x) (demand x) x) (m : OrdMap UInt64 ν)
    (hinto : m.entries.foldlM into .empty = some m) :
    Decodes (readMap r into) (putList put m.entries)
      (m.size ≤ kMaxCheckpointVectorEntries ∧ ∀ x ∈ m.entries, demand x) m :=
  decodes_counted (length_le_flatMap hpos m.entries) (.timesInto h hinto)

end Sequences

/-! ## The register files -/

def readGRCell : Reader (UInt64 × Bool) := do
  let value ← u64
  let nat ← u8Bool
  return (value, nat)

def putGRCell (cell : UInt64 × Bool) : List UInt8 := [putU64 cell.1, putBool cell.2].flatten

/-- The general registers set one after another, each value before its NaT bit. -/
def restoreGR {n : Nat} (cells : Vector (UInt64 × Bool) n) : GRFile :=
  (List.finRange n).foldl (fun f (i : Fin n) => (f.set i (getElem cells i i.isLt).1).setNaT i (getElem cells i i.isLt).2) .fill

/-- Both banks of `GR16`–`GR31` start from the one that an old checkpoint has. -/
def seedSecondBank (f : GRFile) : GRFile :=
  (List.range 16).foldl (fun f k => (f.set (128 + k) (f.get (16 + k))).setNaT (128 + k) (f.getNaT (16 + k))) f

def readGeneralRegisters (version : UInt32) : Reader GRFile :=
  if version ≥ 5 then do
    let cells ← array readGRCell 144
    return restoreGR cells
  else do
    let cells ← array readGRCell 128
    return seedSecondBank (restoreGR cells)

/-- What `GetGRPhysical` and `GetGRNaTPhysical` answer. -/
def grCell (f : GRFile) (i : Fin 144) : UInt64 × Bool := (f.get i, f.getNaT i)

def grCells (f : GRFile) : Vector (UInt64 × Bool) 144 := Vector.ofFn (grCell f)

def restoreFR (values : Vector (Vector UInt8 16) 128) : FRFile :=
  (List.finRange 128).foldl (fun f (i : Fin 128) => f.setPhysical i (getElem values i (fin_lt_128 i))) .fill

def frCells (f : FRFile) : Vector (Vector UInt8 16) 128 := Vector.ofFn f.getPhysical

def restorePR (values : Vector Bool 64) : PRFile :=
  (List.finRange 64).foldl (fun f (i : Fin 64) => f.setPhysical i (getElem values i (fin_lt_64 i))) .fill

def prCells (f : PRFile) : Vector Bool 64 := Vector.ofFn f.getPhysical

def readTranslation : Reader TranslationRegisterState := do
  let physicalAddress ← u64
  let virtualAddress ← u64
  let itir ← u64
  let regionValue ← u64
  let valid ← u8Bool
  return { physicalAddress, virtualAddress, itir, regionValue, valid }

def putTranslation (tr : TranslationRegisterState) : List UInt8 :=
  [putU64 tr.physicalAddress, putU64 tr.virtualAddress, putU64 tr.itir, putU64 tr.regionValue,
    putBool tr.valid].flatten

/-- The software TLBs with their replacement cursors. -/
structure SoftwareTlbs where
  itlb : Vector TranslationRegisterState 64
  dtlb : Vector TranslationRegisterState 64
  itlbReplacementIndex : Fin 64
  dtlbReplacementIndex : Fin 64

/-- Checkpoints before version 4 have no TLBs; a new processor's are empty. -/
def readTlbs (version : UInt32) : Reader SoftwareTlbs :=
  if version ≥ 4 then do
    let itlb ← array readTranslation 64
    let dtlb ← array readTranslation 64
    let itlbReplacementIndex ← u64
    let dtlbReplacementIndex ← u64
    if h : itlbReplacementIndex.toNat < 64 ∧ dtlbReplacementIndex.toNat < 64 then
      return ⟨itlb, dtlb, ⟨itlbReplacementIndex.toNat, h.1⟩, ⟨dtlbReplacementIndex.toNat, h.2⟩⟩
    else refuse
  else return ⟨CPUState.reset.itlb, CPUState.reset.dtlb, 0, 0⟩

def putTlbs (s : CPUState) : List UInt8 :=
  [putArray putTranslation s.itlb, putArray putTranslation s.dtlb,
    putSize s.itlbReplacementIndex, putSize s.dtlbReplacementIndex].flatten

def readRse : Reader RSEState := do
  let cfm ← u64
  let rsc ← u64
  let bsp ← u64
  let bspstore ← u64
  let rnat ← u64
  let pfs ← u64
  let sof ← u8
  let sol ← u8
  let sor ← u8
  return { cfm, rsc, bsp, bspstore, rnat, pfs, sof, sol, sor }

def putRse (rse : RSEState) : List UInt8 :=
  [putU64 rse.cfm, putU64 rse.rsc, putU64 rse.bsp, putU64 rse.bspstore, putU64 rse.rnat, putU64 rse.pfs,
    putU8 rse.sof, putU8 rse.sol, putU8 rse.sor].flatten

/-! ## The processor -/

/-- Checkpoints before version 3 have no `CPUID`; a new processor has its profile there. -/
def readCPUID (version : UInt32) : Reader (Vector UInt64 5) :=
  if version ≥ 3 then array u64 5 else return CPUState.reset.cpuid

/-- Checkpoints before version 5 know one bank of static registers; firmware and kernel run in bank 1. -/
def restorePSR (version : UInt32) (psr : UInt64) : UInt64 := if version < 5 then psr ||| IA64_PSR_BN_MASK else psr

/-- The processor part of **`deserializeCheckpointState`**. `SetAR` and `SetCFM` also write the RSE view,
    but the view read from the checkpoint is set last. -/
def readCpu (version : UInt32) : Reader CPUState := do
  let gr ← readGeneralRegisters version
  let fr ← array (array u8 16) 128
  let pr ← array u8Bool 64
  let br ← array u64 8
  let rr ← array u64 8
  let cr ← array u64 128
  let itr ← array readTranslation 256
  let dtr ← array readTranslation 256
  let tlbs ← readTlbs version
  let ar ← array u64 128
  let rse ← readRse
  let ip ← u64
  let cfm ← u64
  let psr ← u64
  let cpuid ← readCPUID version
  return {
    gr, br, rr, cr, cpuid, itr, dtr, ar, rse, ip, cfm
    fr := restoreFR fr
    pr := restorePR pr
    itlb := tlbs.itlb
    dtlb := tlbs.dtlb
    itlbReplacementIndex := tlbs.itlbReplacementIndex
    dtlbReplacementIndex := tlbs.dtlbReplacementIndex
    psr := restorePSR version psr }

/-- The processor part of **`serializeCheckpointState`**. -/
def putCpu (cpu : CPUState) : List UInt8 :=
  [putArray putGRCell (grCells cpu.gr), putArray (putArray putU8) (frCells cpu.fr),
    putArray putBool (prCells cpu.pr), putArray putU64 cpu.br, putArray putU64 cpu.rr, putArray putU64 cpu.cr,
    putArray putTranslation cpu.itr, putArray putTranslation cpu.dtr, putTlbs cpu, putArray putU64 cpu.ar,
    putRse cpu.rse, putU64 cpu.ip, putU64 cpu.cfm, putU64 cpu.psr, putArray putU64 cpu.cpuid].flatten

/-! ## Filling a register file -/

/-- A cell holds what was put into it, whenever that was. -/
theorem get_fill {σ ι β : Type} {g : σ → ι → β} {put : σ → ι → σ} {v : ι → β}
    (hself : ∀ s i, g (put s i) i = v i) (hother : ∀ s i j, i ≠ j → g (put s i) j = g s j)
    {is : List ι} {j : ι} (hj : j ∈ is) (s : σ) : g (is.foldl put s) j = v j := by
  have hkeep : ∀ (is : List ι) (s : σ), g s j = v j → g (is.foldl put s) j = v j := by
    intro is
    induction is with
    | nil => exact fun s hs => hs
    | cons i is ih =>
        intro s hs
        refine ih (put s i) ?_
        by_cases hij : i = j
        · rw [← hij]
          exact hself s i
        · rw [hother s i j hij]
          exact hs
  induction is generalizing s with
  | nil => cases hj
  | cons i is ih =>
      rw [List.foldl_cons]
      rcases List.mem_cons.mp hj with rfl | hmem
      · exact hkeep is _ (hself s j)
      · exact ih hmem _

theorem restoreGR_grCells (f : GRFile) : restoreGR (grCells f) = f := by
  have hget : ∀ i, grCell (restoreGR (grCells f)) i = grCell f i := by
    intro i
    refine get_fill (g := grCell) (fun g i => ?_) (fun g i j hij => ?_) (List.mem_finRange i) .fill
    · have hcell : (grCells f)[i] = (f.get i, f.getNaT i) := by simp [grCells, grCell]
      rw [hcell]
      unfold grCell
      by_cases h0 : i.val = 0
      · simp [h0]
      · rw [GRFile.get_setNaT, GRFile.get_set_self h0 i.isLt, GRFile.getNaT_setNaT_self h0 i.isLt]
    · have hne : i.val ≠ j.val := fun h => hij (Fin.ext h)
      unfold grCell
      rw [GRFile.get_setNaT, GRFile.get_set_ne hne, GRFile.getNaT_setNaT_ne hne, GRFile.getNaT_set_ne hne]
  refine GRFile.ext (fun i hi => ?_) (fun i hi => ?_)
  · exact congrArg Prod.fst (hget ⟨i, hi⟩)
  · exact congrArg Prod.snd (hget ⟨i, hi⟩)

theorem restoreFR_frCells (f : FRFile) : restoreFR (frCells f) = f := by
  refine FRFile.ext fun i => ?_
  refine get_fill (g := FRFile.getPhysical) (fun g i => ?_) (fun g i j hij => ?_) (List.mem_finRange i) .fill
  · have hcell : (frCells f)[i] = f.getPhysical i := by simp [frCells]
    rw [hcell]
    exact FRFile.getPhysical_setPhysical_self g f i
  · exact FRFile.getPhysical_setPhysical_ne hij g _

theorem restorePR_prCells (f : PRFile) : restorePR (prCells f) = f := by
  refine PRFile.ext fun i => ?_
  refine get_fill (g := PRFile.getPhysical) (fun g i => ?_) (fun g i j hij => ?_) (List.mem_finRange i) .fill
  · have hcell : (prCells f)[i] = f.getPhysical i := by simp [prCells]
    rw [hcell]
    exact PRFile.getPhysical_setPhysical_self g f i
  · exact PRFile.getPhysical_setPhysical_ne hij g _

/-! ## Reading back what was written -/

section RoundTrip
open Decodes

theorem decodes_grCell (cell : UInt64 × Bool) : Decodes readGRCell (putGRCell cell) True cell :=
  (Decodes.u64 _).then (Decodes.u8Bool _).last

theorem decodes_array {α : Type} {r : Reader α} {put : α → List UInt8} (h : ∀ x, Decodes r (put x) True x) {n : Nat}
    (v : Vector α n) : Decodes (Reader.array r n) (putArray put v) True v := Decodes.array h v

theorem decodes_generalRegisters (f : GRFile) :
    Decodes (readGeneralRegisters kIA64CheckpointBlobVersion) (putArray putGRCell (grCells f)) True f := by
  have h := (decodes_array decodes_grCell (grCells f)).last (g := restoreGR)
  rw [List.flatten_singleton, restoreGR_grCells] at h
  exact h

theorem decodes_translation (tr : TranslationRegisterState) :
    Decodes readTranslation (putTranslation tr) True tr :=
  (Decodes.u64 _).then <| (Decodes.u64 _).then <| (Decodes.u64 _).then <| (Decodes.u64 _).then <|
    (Decodes.u8Bool _).last

theorem decodes_rse (rse : RSEState) : Decodes readRse (putRse rse) True rse :=
  (Decodes.u64 _).then <| (Decodes.u64 _).then <| (Decodes.u64 _).then <| (Decodes.u64 _).then <|
    (Decodes.u64 _).then <| (Decodes.u64 _).then <| (Decodes.u8 _).then <| (Decodes.u8 _).then <|
    (Decodes.u8 _).last

theorem decodes_tlbs (s : CPUState) :
    Decodes (readTlbs kIA64CheckpointBlobVersion) (putTlbs s) True
      ⟨s.itlb, s.dtlb, s.itlbReplacementIndex, s.dtlbReplacementIndex⟩ := by
  have hindex : ∀ i : Fin 64, (UInt64.ofNat i).toNat = i := fun i =>
    UInt64.toNat_ofNat_of_lt' (Nat.lt_trans i.isLt (by decide))
  refine (decodes_array decodes_translation _).then <| (decodes_array decodes_translation _).then <|
    (Decodes.u64 (UInt64.ofNat s.itlbReplacementIndex)).then <|
    (Decodes.u64 (UInt64.ofNat s.dtlbReplacementIndex)).then ?_
  simp only [hindex, Fin.isLt, and_self, dite_true]
  exact .pure

theorem decodes_cpuid (v : Vector UInt64 5) :
    Decodes (readCPUID kIA64CheckpointBlobVersion) (putArray putU64 v) True v := decodes_array Decodes.u64 v

/-- **The processor.** -/
theorem decodes_cpu (cpu : CPUState) : Decodes (readCpu kIA64CheckpointBlobVersion) (putCpu cpu) True cpu := by
  have h : Decodes (readCpu kIA64CheckpointBlobVersion) (putCpu cpu) True
      { cpu with fr := restoreFR (frCells cpu.fr), pr := restorePR (prCells cpu.pr) } :=
    (decodes_generalRegisters _).then <| (decodes_array (decodes_array Decodes.u8) _).then <|
      (decodes_array Decodes.u8Bool _).then <| (decodes_array Decodes.u64 _).then <|
      (decodes_array Decodes.u64 _).then <| (decodes_array Decodes.u64 _).then <|
      (decodes_array decodes_translation _).then <| (decodes_array decodes_translation _).then <|
      (decodes_tlbs cpu).then <| (decodes_array Decodes.u64 _).then <| (decodes_rse _).then <|
      (Decodes.u64 _).then <| (Decodes.u64 _).then <| (Decodes.u64 _).then <| (decodes_cpuid _).last
  rw [restoreFR_frCells, restorePR_prCells] at h
  exact h

end RoundTrip

end GuideXOS.Isa
