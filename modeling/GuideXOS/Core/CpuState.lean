import GuideXOS.Lib.Words

/-!
# `CpuState` — the IA-64 register files

`CPUState` holds every architectural register of the emulated processor: the physical general registers
with their NaT bits, floating-point, predicate, branch, region, control and application registers, the
translation registers and software TLBs, the explicit RSE view, IP, CFM and PSR.

* A register number that the source checks against the size of its file is a `Fin` of that size.
* The hard-wired registers (`GR0`, `FR0`, `FR1`, `PR0`) are constant by construction: a register file
  carries the fact as a field, so no operation can build a file that breaks it.
* `MapGR` can leave the physical file only for a rotating region larger than the file (`SOR > 14`); the
  source indexes out of bounds there, and the model reads `0` and drops the write.
-/

namespace GuideXOS.Core

def IA64_PSR_BN_MASK : UInt64 := (1 : UInt64) <<< 44

/-! ## Register files with hard-wired entries -/

/-- The 144 physical general registers: `GR0`–`GR127` and the second bank of `GR16`–`GR31`. -/
structure GRFile where
  value : Vector UInt64 144
  nat : Vector Bool 144
  value_zero : value[0] = 0
  nat_zero : nat[0] = false

namespace GRFile

def fill : GRFile := ⟨Vector.replicate 144 0, Vector.replicate 144 false, by simp, by simp⟩

variable (f : GRFile) {i : Nat}

def get (i : Nat) : UInt64 := f.value[i]?.getD 0

def getNaT (i : Nat) : Bool := f.nat[i]?.getD false

/-- A value write clears the NaT bit; `GR0` ignores it. -/
def set (i : Nat) (v : UInt64) : GRFile :=
  if h : i = 0 then f
  else ⟨f.value.setIfInBounds i v, f.nat.setIfInBounds i false,
    by rw [Vector.getElem_setIfInBounds, if_neg h]; exact f.value_zero,
    by rw [Vector.getElem_setIfInBounds, if_neg h]; exact f.nat_zero⟩

def setNaT (i : Nat) (b : Bool) : GRFile :=
  if h : i = 0 then f
  else { f with
    nat := f.nat.setIfInBounds i b
    nat_zero := by rw [Vector.getElem_setIfInBounds, if_neg h]; exact f.nat_zero }

@[ext] theorem ext {f g : GRFile} (hv : ∀ i < 144, f.get i = g.get i)
    (hn : ∀ i < 144, f.getNaT i = g.getNaT i) : f = g := by
  obtain ⟨fv, fn, _, _⟩ := f
  obtain ⟨gv, gn, _, _⟩ := g
  have hv' : fv = gv := Vector.ext fun i hi => by simpa [get, hi] using hv i hi
  have hn' : fn = gn := Vector.ext fun i hi => by simpa [getNaT, hi] using hn i hi
  subst hv' hn'
  rfl

@[simp] theorem get_zero : f.get 0 = 0 := by simp [get, f.value_zero]

@[simp] theorem getNaT_zero : f.getNaT 0 = false := by simp [getNaT, f.nat_zero]

@[simp] theorem set_zero (v : UInt64) : f.set 0 v = f := rfl

theorem get_set_self {f : GRFile} (h0 : i ≠ 0) (hi : i < 144) (v : UInt64) : (f.set i v).get i = v := by
  simp [set, get, h0, hi]

theorem get_set_ne {f : GRFile} {j : Nat} (hij : i ≠ j) (v : UInt64) : (f.set i v).get j = f.get j := by
  by_cases h0 : i = 0
  · rw [h0, set_zero]
  · simp [set, get, h0, hij]

theorem getNaT_set_self {f : GRFile} (v : UInt64) : (f.set i v).getNaT i = false := by
  by_cases h0 : i = 0
  · rw [h0, set_zero, getNaT_zero]
  · by_cases hi : i < 144 <;> simp [set, getNaT, h0, hi]

theorem getNaT_set_ne {f : GRFile} {j : Nat} (hij : i ≠ j) (v : UInt64) : (f.set i v).getNaT j = f.getNaT j := by
  by_cases h0 : i = 0
  · rw [h0, set_zero]
  · simp [set, getNaT, h0, hij]

@[simp] theorem get_setNaT (i j : Nat) (b : Bool) : (f.setNaT i b).get j = f.get j := by
  unfold setNaT
  split <;> rfl

theorem getNaT_setNaT_self {f : GRFile} (h0 : i ≠ 0) (hi : i < 144) (b : Bool) : (f.setNaT i b).getNaT i = b := by
  simp [setNaT, getNaT, h0, hi]

theorem getNaT_setNaT_ne {f : GRFile} {j : Nat} (hij : i ≠ j) (b : Bool) : (f.setNaT i b).getNaT j = f.getNaT j := by
  by_cases h0 : i = 0
  · simp [setNaT, h0]
  · simp [setNaT, getNaT, h0, hij]

end GRFile

/-- The 128 physical floating-point registers, 16 bytes each. `FR0` and `FR1` are not storage: their
    cells stay zero and reads of them are answered with constants. -/
structure FRFile where
  value : Vector (Vector UInt8 16) 128
  value_zero : value[0] = Vector.replicate 16 0
  value_one : value[1] = Vector.replicate 16 0

namespace FRFile

def fill : FRFile := ⟨Vector.replicate 128 (Vector.replicate 16 0), by simp, by simp⟩

/-- The value `FR1` reads as: `+1.0` in the register format. -/
def one : Vector UInt8 16 :=
  #v[0, 0, 0, 0, 0, 0, 0, 0x80, 0xFF, 0xFF, 0, 0, 0, 0, 0, 0]

def getPhysical (f : FRFile) (i : Fin 128) : Vector UInt8 16 :=
  if i = 0 then Vector.replicate 16 0
  else if i = 1 then one
  else f.value[i]

def setPhysical (f : FRFile) (i : Fin 128) (v : Vector UInt8 16) : FRFile :=
  if h : i = 0 ∨ i = 1 then f
  else ⟨f.value.set i v,
    by rw [Vector.getElem_set, if_neg fun hi : i.val = 0 => h (.inl (Fin.ext hi))]; exact f.value_zero,
    by rw [Vector.getElem_set, if_neg fun hi : i.val = 1 => h (.inr (Fin.ext hi))]; exact f.value_one⟩

@[ext] theorem ext {f g : FRFile} (h : ∀ i, f.getPhysical i = g.getPhysical i) : f = g := by
  have hvalue : f.value = g.value := Vector.ext fun i hi => by
    by_cases h0 : i = 0
    · subst h0
      rw [f.value_zero, g.value_zero]
    · by_cases h1 : i = 1
      · subst h1
        rw [f.value_one, g.value_one]
      · have hne0 : (⟨i, hi⟩ : Fin 128) ≠ 0 := fun he => h0 (congrArg Fin.val he)
        have hne1 : (⟨i, hi⟩ : Fin 128) ≠ 1 := fun he => h1 (congrArg Fin.val he)
        have hi' := h ⟨i, hi⟩
        unfold getPhysical at hi'
        rw [if_neg hne0, if_neg hne0, if_neg hne1, if_neg hne1] at hi'
        exact hi'
  cases f
  cases g
  congr

/-- A register set to what another file holds there reads so; the hard-wired ones do anyway. -/
theorem getPhysical_setPhysical_self (f g : FRFile) (i : Fin 128) :
    (f.setPhysical i (g.getPhysical i)).getPhysical i = g.getPhysical i := by
  unfold setPhysical getPhysical
  by_cases h0 : i = 0
  · simp [h0]
  · by_cases h1 : i = 1
    · simp [h1]
    · simp [h0, h1]

theorem getPhysical_setPhysical_ne {i j : Fin 128} (hij : i ≠ j) (f : FRFile) (v : Vector UInt8 16) :
    (f.setPhysical i v).getPhysical j = f.getPhysical j := by
  have hne : i.val ≠ j.val := fun h => hij (Fin.ext h)
  unfold setPhysical
  split
  · rfl
  · unfold getPhysical
    dsimp only
    rw [Fin.getElem_fin, Vector.getElem_set_ne i.isLt j.isLt hne]
    rfl

end FRFile

/-- The 64 physical predicate registers; `PR0` is always true. -/
structure PRFile where
  value : Vector Bool 64
  value_zero : value[0] = true

namespace PRFile

def fill : PRFile := ⟨(Vector.replicate 64 false).set 0 true, by simp⟩

def getPhysical (f : PRFile) (i : Fin 64) : Bool := if i = 0 then true else f.value[i]

def setPhysical (f : PRFile) (i : Fin 64) (b : Bool) : PRFile :=
  if h : i = 0 then f
  else ⟨f.value.set i b,
    by rw [Vector.getElem_set, if_neg fun hi : i.val = 0 => h (Fin.ext hi)]; exact f.value_zero⟩

@[ext] theorem ext {f g : PRFile} (h : ∀ i, f.getPhysical i = g.getPhysical i) : f = g := by
  have hvalue : f.value = g.value := Vector.ext fun i hi => by
    by_cases h0 : i = 0
    · subst h0
      rw [f.value_zero, g.value_zero]
    · have hne0 : (⟨i, hi⟩ : Fin 64) ≠ 0 := fun he => h0 (congrArg Fin.val he)
      have hi' := h ⟨i, hi⟩
      unfold getPhysical at hi'
      rw [if_neg hne0, if_neg hne0] at hi'
      exact hi'
  cases f
  cases g
  congr

theorem getPhysical_setPhysical_self (f g : PRFile) (i : Fin 64) :
    (f.setPhysical i (g.getPhysical i)).getPhysical i = g.getPhysical i := by
  unfold setPhysical getPhysical
  by_cases h0 : i = 0 <;> simp [h0]

theorem getPhysical_setPhysical_ne {i j : Fin 64} (hij : i ≠ j) (f : PRFile) (b : Bool) :
    (f.setPhysical i b).getPhysical j = f.getPhysical j := by
  have hne : i.val ≠ j.val := fun h => hij (Fin.ext h)
  unfold setPhysical
  split
  · rfl
  · unfold getPhysical
    dsimp only
    rw [Fin.getElem_fin, Vector.getElem_set_ne i.isLt j.isLt hne]
    rfl

end PRFile

/-! ## The processor state -/

structure TranslationRegisterState where
  physicalAddress : UInt64 := 0
  virtualAddress : UInt64 := 0
  itir : UInt64 := 0
  regionValue : UInt64 := 0
  valid : Bool := false
  deriving DecidableEq

/-- The explicit view of the register stack engine, kept beside the application registers. -/
structure RSEState where
  cfm : UInt64 := 0
  rsc : UInt64 := 0
  bsp : UInt64 := 0
  bspstore : UInt64 := 0
  rnat : UInt64 := 0
  pfs : UInt64 := 0
  sof : UInt8 := 0
  sol : UInt8 := 0
  sor : UInt8 := 0

/-- The state of one processor. The replacement cursors of the two TLBs are indices into them. -/
structure CPUState where
  gr : GRFile
  fr : FRFile
  pr : PRFile
  br : Vector UInt64 8
  rr : Vector UInt64 8
  cr : Vector UInt64 128
  cpuid : Vector UInt64 5
  itr : Vector TranslationRegisterState 256
  dtr : Vector TranslationRegisterState 256
  itlb : Vector TranslationRegisterState 64
  dtlb : Vector TranslationRegisterState 64
  itlbReplacementIndex : Fin 64
  dtlbReplacementIndex : Fin 64
  ar : Vector UInt64 128
  rse : RSEState
  ip : UInt64
  cfm : UInt64
  psr : UInt64

namespace CPUState

/-- **`Reset`.** Everything is cleared, except `PR0`, the processor profile in `CPUID`, and `PSR.bn`:
    firmware starts in register bank 1. -/
def reset : CPUState where
  gr := .fill
  fr := .fill
  pr := .fill
  br := Vector.replicate 8 0
  rr := Vector.replicate 8 0
  cr := Vector.replicate 128 0
  cpuid := #v[0x49656e69756e6547, 0x000000006c65746e, 0, 4, 1]
  itr := Vector.replicate 256 {}
  dtr := Vector.replicate 256 {}
  itlb := Vector.replicate 64 {}
  dtlb := Vector.replicate 64 {}
  itlbReplacementIndex := 0
  dtlbReplacementIndex := 0
  ar := Vector.replicate 128 0
  rse := {}
  ip := 0
  cfm := 0
  psr := IA64_PSR_BN_MASK

/-! ### Frame marker fields -/

variable (s : CPUState) {i : Fin 64} (index : Fin 128)

def getSOF : UInt8 := (s.cfm &&& 0x7F).toUInt8
def getSOL : UInt8 := ((s.cfm >>> 7) &&& 0x7F).toUInt8
def getSOR : UInt8 := ((s.cfm >>> 14) &&& 0xF).toUInt8
def getRRB_GR : UInt8 := ((s.cfm >>> 18) &&& 0x7F).toUInt8
def getRRB_PR : UInt8 := ((s.cfm >>> 32) &&& 0x3F).toUInt8

/-- **`SetCFM`** also refreshes the RSE view, whose `pfs` copy follows CFM and not AR.PFS. -/
def setCFM (value : UInt64) : CPUState :=
  { s with
    cfm := value
    rse := { s.rse with
      cfm := value
      pfs := value
      sof := (value &&& 0x7F).toUInt8
      sol := ((value >>> 7) &&& 0x7F).toUInt8
      sor := ((value >>> 14) &&& 0xF).toUInt8 } }

def setIP (value : UInt64) : CPUState := { s with ip := value }

def setPSR (value : UInt64) : CPUState := { s with psr := value }

/-! ### General registers -/

/-- The physical register a logical register number names under the current bank and frame marker. -/
def mapGR (logical : Nat) : Nat :=
  if 16 ≤ logical ∧ logical < 32 ∧ s.psr &&& IA64_PSR_BN_MASK ≠ 0 then 128 + (logical - 16)
  else if logical < 32 ∨ 128 ≤ logical then logical
  else
    let rotatingSize := s.getSOR.toNat * 8
    if rotatingSize = 0 ∨ 32 + rotatingSize ≤ logical then logical
    else 32 + (logical - 32 + s.getRRB_GR.toNat) % rotatingSize

def getGR : UInt64 :=
  if index = 0 then 0 else s.gr.get (s.mapGR index)

def setGR (value : UInt64) : CPUState :=
  if index = 0 then s else { s with gr := s.gr.set (s.mapGR index) value }

def getGRNaT : Bool :=
  if index = 0 then false else s.gr.getNaT (s.mapGR index)

def setGRNaT (value : Bool) : CPUState :=
  if index = 0 then s else { s with gr := s.gr.setNaT (s.mapGR index) value }

/-! ### Predicate and branch registers -/

/-- **`GetPR`.** Predicates from 16 up rotate with `RRB.pr`. -/
def getPR (index : Fin 64) : Bool :=
  if index = 0 then true
  else if index < 16 then s.pr.value[index]
  else s.pr.value.get ⟨16 + (index.val - 16 + s.getRRB_PR.toNat) % 48, by omega⟩

/-- **`MapPR`.** -/
def mapPR (logical : Fin 64) : Fin 64 :=
  if logical < 16 then logical
  else ⟨16 + (logical.val - 16 + s.getRRB_PR.toNat) % 48, by omega⟩

def setPR (index : Fin 64) (value : Bool) : CPUState :=
  if index = 0 then s else { s with pr := s.pr.setPhysical (s.mapPR index) value }

theorem mapPR_static (h : i.val < 16) : s.mapPR i = i := if_pos h

theorem mapPR_rotating (h : ¬ i.val < 16) : (s.mapPR i).val = 16 + (i.val - 16 + s.getRRB_PR.toNat) % 48 := by
  have hi : ¬ i < 16 := h
  rw [mapPR, if_neg hi]

theorem mapPR_eq_zero {s : CPUState} : s.mapPR i = 0 ↔ i = 0 := by
  constructor
  · intro h
    by_cases hi : i.val < 16
    · rwa [mapPR_static s hi] at h
    · have hval := mapPR_rotating s hi
      rw [h, Fin.val_zero] at hval
      omega
  · rintro rfl
    rfl

/-- Rotation permutes the predicates. -/
theorem mapPR_injective {s : CPUState} {j : Fin 64} (h : s.mapPR i = s.mapPR j) : i = j := by
  have hval := congrArg Fin.val h
  refine Fin.ext ?_
  by_cases hi : i.val < 16
  · by_cases hj : j.val < 16
    · rwa [mapPR_static s hi, mapPR_static s hj] at hval
    · rw [mapPR_static s hi, mapPR_rotating s hj] at hval
      omega
  · by_cases hj : j.val < 16
    · rw [mapPR_rotating s hi, mapPR_static s hj] at hval
      omega
    · rw [mapPR_rotating s hi, mapPR_rotating s hj] at hval
      omega

theorem mapPR_surjective (p : Fin 64) : ∃ i, s.mapPR i = p := by
  by_cases hp : p.val < 16
  · exact ⟨p, mapPR_static s hp⟩
  · refine ⟨⟨16 + (p.val - 16 + (48 - s.getRRB_PR.toNat % 48)) % 48, by omega⟩, Fin.ext ?_⟩
    rw [mapPR_rotating s (by dsimp only; omega)]
    dsimp only
    omega

theorem getPR_eq (i : Fin 64) : s.getPR i = s.pr.getPhysical (s.mapPR i) := by
  unfold getPR
  by_cases h0 : i = 0
  · rw [if_pos h0, h0]
    rfl
  · have hmap : s.mapPR i ≠ 0 := mt mapPR_eq_zero.mp h0
    rw [if_neg h0, PRFile.getPhysical, if_neg hmap]
    by_cases h16 : i < 16
    · rw [if_pos h16, mapPR_static s h16]
    · rw [if_neg h16]
      simp only [mapPR, if_neg h16]
      rfl

def getBR (index : Fin 8) : UInt64 := s.br[index]

def setBR (index : Fin 8) (value : UInt64) : CPUState := { s with br := s.br.set index value }

/-! ### Region, control and application registers -/

def getRR (index : Fin 8) : UInt64 := s.rr[index]

def getCR : UInt64 := s.cr[index]

def setCR (value : UInt64) : CPUState :=
  { s with cr := s.cr.set index value }

theorem getCR_setCR_self (i : Fin 128) (v : UInt64) : (s.setCR i v).getCR i = v := by
  rw [getCR, setCR, Fin.getElem_fin, Vector.getElem_set_self]

theorem getCR_setCR_ne {i j : Fin 128} (h : i ≠ j) (s : CPUState) (v : UInt64) :
    (s.setCR i v).getCR j = s.getCR j := by
  rw [getCR, setCR, Fin.getElem_fin, Vector.getElem_set_ne i.isLt j.isLt fun hij => h (Fin.ext hij)]
  rfl

@[simp] theorem getCR_setIP (v : UInt64) (i : Fin 128) : (s.setIP v).getCR i = s.getCR i := rfl

@[simp] theorem getCR_setPSR (v : UInt64) (i : Fin 128) : (s.setPSR v).getCR i = s.getCR i := rfl

def getAR : UInt64 := s.ar[index]

/-- **`SetAR`.** The five registers of the RSE view are mirrored into it. -/
def setAR (value : UInt64) : CPUState :=
  { s with
    ar := s.ar.set index value
    rse :=
      if index = 16 then { s.rse with rsc := value }
      else if index = 17 then { s.rse with bsp := value }
      else if index = 18 then { s.rse with bspstore := value }
      else if index = 19 then { s.rse with rnat := value }
      else if index = 64 then { s.rse with
        pfs := value
        cfm := value
        sof := (value &&& 0x7F).toUInt8
        sol := ((value >>> 7) &&& 0x7F).toUInt8
        sor := ((value >>> 14) &&& 0xF).toUInt8 }
      else s.rse }

theorem getAR_setAR_self (i : Fin 128) (v : UInt64) : (s.setAR i v).getAR i = v := by
  rw [getAR, setAR, Fin.getElem_fin, Vector.getElem_set_self]

theorem getAR_setAR_ne {i j : Fin 128} (h : i ≠ j) (s : CPUState) (v : UInt64) :
    (s.setAR i v).getAR j = s.getAR j := by
  rw [getAR, setAR, Fin.getElem_fin, Vector.getElem_set_ne i.isLt j.isLt fun hij => h (Fin.ext hij)]
  rfl

/-- **`AdvanceITC`** moves the interval time counter, `AR.ITC`, directly. -/
def advanceITC (ticks : UInt64) : CPUState :=
  { s with ar := s.ar.set 44 (s.ar[44] + ticks) }

/-! ### The register stack engine -/

def getBSP : UInt64 := s.getAR 17
def getBSPSTORE : UInt64 := s.getAR 18

/-- **`skipRseRegisters`.** Every 64th word of the backing store collects NaT bits and is skipped. The
    source counts the collections passed in a loop; the count is a division rounded toward zero. -/
def skipRseRegisters (address : UInt64) (registerCount : Int) : UInt64 :=
  if registerCount = 0 then address
  else
    let delta := ((address >>> 3) &&& 0x3F).toNat + registerCount - (if registerCount < 0 then 0x3E else 0)
    address + UInt64.ofInt ((registerCount + Int.tdiv delta 0x3F) * 8)

def advanceBSPForCall : CPUState :=
  s.setAR 17 (skipRseRegisters s.getBSP s.getSOL.toNat)

def rewindBSPForReturn (callerSol : UInt8) : CPUState :=
  let returnedBsp := skipRseRegisters s.getBSP (-callerSol.toNat)
  let s := s.setAR 17 returnedBsp
  if s.getBSPSTORE > returnedBsp then s.setAR 18 returnedBsp else s

/-- **`SetPFS`.** -/
def setPFS (value : UInt64) : CPUState := s.setAR 64 value

/-! ### Which updates leave the general registers and CFM alone -/

section Frame
variable (s : CPUState) (v : UInt64)

@[simp] theorem gr_setCFM : (s.setCFM v).gr = s.gr := rfl
@[simp] theorem cfm_setCFM : (s.setCFM v).cfm = v := rfl
@[simp] theorem gr_setAR (i : Fin 128) (v : UInt64) : (s.setAR i v).gr = s.gr := rfl
@[simp] theorem gr_setPFS : (s.setPFS v).gr = s.gr := rfl
@[simp] theorem gr_advanceBSPForCall : s.advanceBSPForCall.gr = s.gr := rfl
@[simp] theorem gr_setIP : (s.setIP v).gr = s.gr := rfl
@[simp] theorem cfm_setIP : (s.setIP v).cfm = s.cfm := rfl

@[simp] theorem cfm_setGR (i : Fin 128) (v : UInt64) : (s.setGR i v).cfm = s.cfm := by
  unfold setGR
  split <;> rfl

/-- The registers below the banked ones are where their numbers say. -/
theorem getGR_setGR_self {i : Fin 128} (h0 : i ≠ 0) (h16 : i.val < 16) (v : UInt64) :
    (s.setGR i v).getGR i = v := by
  have hmap : ∀ t : CPUState, t.mapGR i = i := by
    intro t
    rw [mapGR, if_neg (by omega), if_pos (by omega)]
  rw [getGR, if_neg h0, hmap, setGR, if_neg h0, hmap]
  exact GRFile.get_set_self (Fin.val_ne_of_ne h0) (by omega) v

end Frame

end CPUState

end GuideXOS.Core
