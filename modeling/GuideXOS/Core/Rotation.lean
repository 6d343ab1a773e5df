import GuideXOS.Core.CpuState
import GuideXOS.Lib.Windows

/-!
# `Rotation` — register renaming and modulo-scheduled loops

The rotating registers of the three files are windows that the frame marker turns: 96 floating-point registers, 48
predicates, and as many general registers as the frame asks for, in eights. `RotateRegisters` turns all three back
by one, so that what register `r` named, register `r + 1` names.

* `alloc` compares the number of eights with the size of the frame. A rotating region of more than the 96 stacked
  registers reaches into the second bank of `GR16`–`GR31`, which follows them, and past the file
  (`alloc_renames_iff`).
* `br.ctop` and `br.cexit` rotate while their counters run down (`modulo_loop`).
-/

namespace GuideXOS.Core
open Lib.Words Lib.Windows

namespace CPUState

/-! ## The registers by number -/

variable (s : CPUState)

def getRRB_FR : UInt8 := ((s.cfm >>> 25) &&& 0x7F).toUInt8

/-- **`MapFR`.** -/
def mapFR (logical : Fin 128) : Fin 128 :=
  if logical < 32 then logical
  else ⟨32 + (logical.val - 32 + s.getRRB_FR.toNat) % 96, by omega⟩

def getFR (index : Fin 128) : Vector UInt8 16 := s.fr.getPhysical (s.mapFR index)

def setFR (index : Fin 128) (value : Vector UInt8 16) : CPUState :=
  { s with fr := s.fr.setPhysical (s.mapFR index) value }

/-- **`RotateRegisters`.** -/
def rotateRegisters : CPUState :=
  let grSize := s.getSOR.toNat * 8
  let cfm := if grSize ≠ 0 then
    let next := (s.getRRB_GR.toNat + grSize - 1) % grSize
    (s.cfm &&& ~~~((0x7F : UInt64) <<< 18)) ||| (UInt64.ofNat next <<< 18)
  else s.cfm
  let nextFR := (s.getRRB_FR.toNat + 96 - 1) % 96
  let nextPR := (s.getRRB_PR.toNat + 48 - 1) % 48
  let cfm := (cfm &&& ~~~((0x7F : UInt64) <<< 25)) ||| (UInt64.ofNat nextFR <<< 25)
  s.setCFM ((cfm &&& ~~~((0x3F : UInt64) <<< 32)) ||| (UInt64.ofNat nextPR <<< 32))

/-- **`ExecuteModuloLoopStage`.** Whether the branch is taken, and the processor after the stage. -/
def executeModuloLoopStage (exitSense : Bool) : Bool × CPUState :=
  let lc := s.getAR 65
  let ec := s.getAR 66
  if lc ≠ 0 then (!exitSense, ((s.setAR 65 (lc - 1)).setPR 63 true).rotateRegisters)
  else if ec > 1 then (!exitSense, ((s.setAR 66 (ec - 1)).setPR 63 false).rotateRegisters)
  else if ec = 1 then (exitSense, ((s.setAR 66 0).setPR 63 false).rotateRegisters)
  else (exitSense, s.setPR 63 false)

/-- The number of rotating general registers. -/
def grSize : Nat := s.getSOR.toNat * 8

variable {s t : CPUState}

/-- The stacked registers are a window, whose size the frame marker gives. -/
theorem mapGR_stacked {i : Nat} (h : 32 ≤ i) (hi : i < 128) :
    s.mapGR i = turned 32 s.grSize s.getRRB_GR.toNat i := by
  unfold mapGR turned grSize
  rw [if_neg (by omega), if_neg (by omega)]
  dsimp only
  by_cases hout : 32 + s.getSOR.toNat * 8 ≤ i
  · rw [if_pos (.inr hout), if_pos (.inr hout)]
  · rw [if_neg (by omega), if_neg (by omega)]

theorem mapGR_static {i : Nat} (h : i < 32) : s.mapGR i = i ∨ 128 ≤ s.mapGR i ∧ s.mapGR i = i + 112 := by
  unfold mapGR
  split
  · omega
  · left
    rw [if_pos (by omega)]

theorem mapFR_eq (i : Fin 128) : (s.mapFR i).val = turned 32 96 s.getRRB_FR.toNat i := by
  unfold mapFR turned
  by_cases h : i.val < 32
  · have hlt : i < 32 := h
    rw [if_pos hlt, if_pos (.inl h)]
  · have hlt : ¬ i < 32 := h
    rw [if_neg hlt, if_neg (by omega)]

theorem mapPR_eq (i : Fin 64) : (s.mapPR i).val = turned 16 48 s.getRRB_PR.toNat i := by
  by_cases h : i.val < 16
  · rw [mapPR_static s h, turned_outside (.inl h)]
  · rw [mapPR_rotating s h, turned_inside (by omega) (by omega)]

theorem mapFR_injective {i j : Fin 128} (h : s.mapFR i = s.mapFR j) : i = j := by
  have hval := congrArg Fin.val h
  rw [mapFR_eq, mapFR_eq] at hval
  exact Fin.ext (turned_inj hval)

/-! ## One rotation -/

theorem toNat_field_toUInt8 {x : UInt64} (h : x.toNat < 2 ^ 7) : x.toUInt8.toNat = x.toNat := by
  rw [UInt64.toNat_toUInt8]
  exact Nat.mod_eq_of_lt (by omega)

theorem toNat_ofNat_turnBack {size : Nat} (offset : Nat) (hpos : 0 < size) (hsize : size ≤ 128) :
    (UInt64.ofNat (turnBack size offset)).toNat = turnBack size offset := by
  have hlt := turnBack_lt offset hpos
  exact UInt64.toNat_ofNat_of_lt' (by rw [UInt64.size]; omega)

theorem grSize_le (s : CPUState) : s.grSize ≤ 120 := by
  have hmask : (0xF : UInt64).toNat = 2 ^ 4 - 1 := rfl
  unfold grSize getSOR
  have hlt : ((s.cfm >>> 14) &&& 0xF).toNat < 16 := by
    rw [UInt64.toNat_and, hmask, Nat.and_two_pow_sub_one_eq_mod]
    omega
  rw [toNat_field_toUInt8 (by omega)]
  omega

/-- The general registers' base is written between the other fields. -/
theorem rotated_gr (s : CPUState) :
    let cfm : UInt64 := if s.grSize ≠ 0 then
        (s.cfm &&& ~~~((0x7F : UInt64) <<< 18)) ||| (UInt64.ofNat (turnBack s.grSize s.getRRB_GR.toNat) <<< 18)
      else s.cfm
    (cfm >>> 14) &&& (0xF : UInt64) = (s.cfm >>> 14) &&& 0xF ∧
      ((cfm >>> 18) &&& 0x7F).toUInt8.toNat = turnBack s.grSize s.getRRB_GR.toNat ∧
      (cfm >>> 25) &&& (0x7F : UInt64) = (s.cfm >>> 25) &&& 0x7F ∧
      (cfm >>> 32) &&& (0x3F : UInt64) = (s.cfm >>> 32) &&& 0x3F := by
  by_cases hzero : s.grSize = 0
  · rw [if_neg (not_not.mpr hzero), turnBack, if_pos hzero]
    exact ⟨rfl, rfl, rfl, rfl⟩
  · have hpos : 0 < s.grSize := Nat.pos_of_ne_zero hzero
    have hle := s.grSize_le
    have hvalue := toNat_ofNat_turnBack s.getRRB_GR.toNat hpos (by omega)
    have hlt := turnBack_lt s.getRRB_GR.toNat hpos
    rw [if_pos hzero]
    dsimp only
    refine ⟨?_, ?_, ?_, ?_⟩
    · exact field_other 7 4 rfl rfl (by decide) (by decide) (by decide) (by decide) (by omega) _
    · rw [field_written 7 rfl (by decide) (by decide) (by omega), toNat_field_toUInt8 (by omega), hvalue]
    · exact field_other 7 7 rfl rfl (by decide) (by decide) (by decide) (by decide) (by omega) _
    · exact field_other 7 6 rfl rfl (by decide) (by decide) (by decide) (by decide) (by omega) _

/-- **A rotation turns the three windows back by one** and changes no other field of the frame marker. -/
theorem rotateRegisters_fields (s : CPUState) :
    s.rotateRegisters.getSOR = s.getSOR ∧
      s.rotateRegisters.getRRB_GR.toNat = turnBack s.grSize s.getRRB_GR.toNat ∧
      s.rotateRegisters.getRRB_FR.toNat = turnBack 96 s.getRRB_FR.toNat ∧
      s.rotateRegisters.getRRB_PR.toNat = turnBack 48 s.getRRB_PR.toNat := by
  obtain ⟨hsor, hgr, hfr, hpr⟩ := s.rotated_gr
  have hninetySix : 0 < 96 := by decide
  have hfortyEight : 0 < 48 := by decide
  have hfrValue := toNat_ofNat_turnBack s.getRRB_FR.toNat hninetySix (by decide)
  have hprValue := toNat_ofNat_turnBack s.getRRB_PR.toNat hfortyEight (by decide)
  have hfrLt := turnBack_lt s.getRRB_FR.toNat hninetySix
  have hprLt := turnBack_lt s.getRRB_PR.toNat hfortyEight
  have hcfm : s.rotateRegisters.cfm =
      let cfm : UInt64 := if s.grSize ≠ 0 then
          (s.cfm &&& ~~~((0x7F : UInt64) <<< 18)) ||| (UInt64.ofNat (turnBack s.grSize s.getRRB_GR.toNat) <<< 18)
        else s.cfm
      ((((cfm &&& ~~~((0x7F : UInt64) <<< 25)) ||| (UInt64.ofNat (turnBack 96 s.getRRB_FR.toNat) <<< 25)) &&&
        ~~~((0x3F : UInt64) <<< 32)) ||| (UInt64.ofNat (turnBack 48 s.getRRB_PR.toNat) <<< 32)) := by
    unfold rotateRegisters grSize turnBack
    by_cases hzero : s.getSOR.toNat * 8 = 0
    · simp [hzero]
    · simp [hzero]
  unfold getSOR getRRB_GR getRRB_FR getRRB_PR
  rw [hcfm]
  dsimp only at hsor hgr hfr hpr ⊢
  generalize (if s.grSize ≠ 0 then _ else s.cfm) = cfm at hsor hgr hfr hpr ⊢
  -- the fields lie apart
  refine ⟨?_, ?_, ?_, ?_⟩
  · rw [field_other 6 4 rfl rfl (by decide) (by decide) (by decide) (by decide) (by omega),
      field_other 7 4 rfl rfl (by decide) (by decide) (by decide) (by decide) (by omega), hsor]
  · rw [field_other 6 7 rfl rfl (by decide) (by decide) (by decide) (by decide) (by omega),
      field_other 7 7 rfl rfl (by decide) (by decide) (by decide) (by decide) (by omega), hgr]
    rfl
  · rw [field_other 6 7 rfl rfl (by decide) (by decide) (by decide) (by decide) (by omega),
      field_written 7 rfl (by decide) (by decide) (by omega), toNat_field_toUInt8 (by omega), hfrValue]
    rfl
  · rw [field_written 6 rfl (by decide) (by decide) (by omega), toNat_field_toUInt8 (by omega), hprValue]
    rfl

/-! ## Rotations in a row -/

/-- What `k` rotations leave: the contents of the files and the bank, and the windows turned back `k` times. -/
structure RotatedBy (k : Nat) (s t : CPUState) : Prop where
  gr : t.gr = s.gr
  fr : t.fr = s.fr
  psr : t.psr = s.psr
  sor : t.getSOR = s.getSOR
  rrbGR : t.getRRB_GR.toNat = (turnBack s.grSize)^[k] s.getRRB_GR.toNat
  rrbFR : t.getRRB_FR.toNat = (turnBack 96)^[k] s.getRRB_FR.toNat
  rrbPR : t.getRRB_PR.toNat = (turnBack 48)^[k] s.getRRB_PR.toNat

namespace RotatedBy
variable {k : Nat}

theorem refl (s : CPUState) : RotatedBy 0 s s := ⟨rfl, rfl, rfl, rfl, rfl, rfl, rfl⟩

variable (h : RotatedBy k s t)
include h

theorem grSize_eq : t.grSize = s.grSize := by
  unfold grSize
  rw [h.sor]

theorem rotate : RotatedBy (k + 1) s t.rotateRegisters := by
  obtain ⟨hsor, hgr, hfr, hpr⟩ := t.rotateRegisters_fields
  refine ⟨h.gr, h.fr, h.psr, hsor.trans h.sor, ?_, ?_, ?_⟩
  · rw [hgr, h.grSize_eq, h.rrbGR, ← Function.iterate_succ_apply' (turnBack s.grSize)]
  · rw [hfr, h.rrbFR, ← Function.iterate_succ_apply' (turnBack 96)]
  · rw [hpr, h.rrbPR, ← Function.iterate_succ_apply' (turnBack 48)]

/-- **What register `r` named, register `r + k` names**, in each of the three files. -/
theorem mapGR {r r' : Fin 128} (hr : 32 ≤ r.val) (hsize : r.val < 32 + s.grSize)
    (hnext : r'.val = 32 + (r.val - 32 + k) % s.grSize) : t.mapGR r' = s.mapGR r := by
  rw [mapGR_stacked (by omega) r'.isLt, mapGR_stacked hr r.isLt, h.grSize_eq, h.rrbGR, hnext]
  exact turned_iterate hr hsize

theorem mapFR {r r' : Fin 128} (hr : 32 ≤ r.val) (hnext : r'.val = 32 + (r.val - 32 + k) % 96) :
    t.mapFR r' = s.mapFR r := by
  refine Fin.ext ?_
  rw [mapFR_eq, mapFR_eq, h.rrbFR, hnext]
  exact turned_iterate hr (by omega)

theorem mapPR {r r' : Fin 64} (hr : 16 ≤ r.val) (hnext : r'.val = 16 + (r.val - 16 + k) % 48) :
    t.mapPR r' = s.mapPR r := by
  refine Fin.ext ?_
  rw [mapPR_eq, mapPR_eq, h.rrbPR, hnext]
  exact turned_iterate hr (by omega)

end RotatedBy

theorem rotatedBy_iterate (s : CPUState) (k : Nat) : RotatedBy k s (rotateRegisters^[k] s) := by
  induction k with
  | zero => exact .refl s
  | succ k ih =>
      rw [Function.iterate_succ_apply']
      exact ih.rotate

theorem pr_iterate (s : CPUState) (k : Nat) : (rotateRegisters^[k] s).pr = s.pr := by
  induction k with
  | zero => rfl
  | succ k ih =>
      rw [Function.iterate_succ_apply']
      exact ih

/-! ## Renaming without aliasing -/

/-- **No two registers of a file share a place in it**: the places of the general registers are different and inside
    the file, and so are those of the other registers. -/
structure NoAliasing (s : CPUState) : Prop where
  gr_bounded : ∀ i : Fin 128, s.mapGR i < 144
  gr_injective : ∀ i j : Fin 128, s.mapGR i = s.mapGR j → i = j
  fr_injective : ∀ i j : Fin 128, s.mapFR i = s.mapFR j → i = j
  pr_injective : ∀ i j : Fin 64, s.mapPR i = s.mapPR j → i = j

/-- **A write to one register changes no other.** -/
structure WritesApart (s : CPUState) : Prop where
  gr : ∀ i j : Fin 128, i ≠ j → ∀ v, (s.setGR i v).getGR j = s.getGR j ∧ (s.setGR i v).getGRNaT j = s.getGRNaT j
  nat : ∀ i j : Fin 128, i ≠ j → ∀ b, (s.setGRNaT i b).getGR j = s.getGR j ∧
    (s.setGRNaT i b).getGRNaT j = s.getGRNaT j
  fr : ∀ i j : Fin 128, i ≠ j → ∀ v, (s.setFR i v).getFR j = s.getFR j
  pr : ∀ i j : Fin 64, i ≠ j → ∀ b, (s.setPR i b).getPR j = s.getPR j

/-- **After `k` rotations register `r + k` reads what register `r` held**, for every rotating register. -/
structure Shifts (s : CPUState) (k : Nat) : Prop where
  gr : ∀ r : Fin 128, 32 ≤ r.val → r.val < 32 + s.grSize → ∃ r' : Fin 128,
    r'.val = 32 + (r.val - 32 + k) % s.grSize ∧ (rotateRegisters^[k] s).getGR r' = s.getGR r ∧
      (rotateRegisters^[k] s).getGRNaT r' = s.getGRNaT r
  fr : ∀ r : Fin 128, 32 ≤ r.val → ∃ r' : Fin 128,
    r'.val = 32 + (r.val - 32 + k) % 96 ∧ (rotateRegisters^[k] s).getFR r' = s.getFR r
  pr : ∀ r : Fin 64, 16 ≤ r.val → ∃ r' : Fin 64,
    r'.val = 16 + (r.val - 16 + k) % 48 ∧ (rotateRegisters^[k] s).getPR r' = s.getPR r

/-- Rotation renames, and nothing else, as often as it is done. -/
def RenamesOnly (s : CPUState) : Prop :=
  ∀ k, NoAliasing (rotateRegisters^[k] s) ∧ WritesApart (rotateRegisters^[k] s) ∧ Shifts s k

/-- A region within the stacked registers is turned within them; the second bank lies behind. -/
theorem noAliasing_of_grSize_le (h : s.grSize ≤ 96) : NoAliasing s := by
  have hstacked : ∀ i : Fin 128, 32 ≤ i.val → 32 ≤ s.mapGR i ∧ s.mapGR i < 128 := by
    intro i hi
    rw [mapGR_stacked hi i.isLt]
    refine ⟨?_, turned_lt (by omega) i.isLt⟩
    by_cases hout : 32 + s.grSize ≤ i.val
    · rwa [turned_outside (.inr hout)]
    · exact (turned_mem _ hi (by omega)).1
  have hstatic : ∀ i : Fin 128, i.val < 32 → s.mapGR i < 32 ∨ 128 ≤ s.mapGR i ∧ s.mapGR i < 144 := by
    intro i hi
    have hcases := mapGR_static (s := s) hi
    omega
  refine ⟨fun i => ?_, fun i j heq => ?_, fun _ _ => mapFR_injective, fun _ _ => mapPR_injective⟩
  · by_cases hi : i.val < 32
    · have hplace := hstatic i hi
      omega
    · have hplace := hstacked i (by omega)
      omega
  · by_cases hi : i.val < 32
    · by_cases hj : j.val < 32
      · have hicases := mapGR_static (s := s) hi
        have hjcases := mapGR_static (s := s) hj
        exact Fin.ext (by omega)
      · have hplace := hstatic i hi
        have hplace' := hstacked j (by omega)
        omega
    · by_cases hj : j.val < 32
      · have hplace := hstatic j hj
        have hplace' := hstacked i (by omega)
        omega
      · rw [mapGR_stacked (by omega) i.isLt, mapGR_stacked (by omega) j.isLt] at heq
        exact Fin.ext (turned_inj heq)

theorem NoAliasing.writesApart (h : NoAliasing s) : WritesApart s := by
  -- register 0 is written nowhere and read from nowhere; the others lie at different places
  have hmap : ∀ i j : Fin 128, i ≠ j → s.mapGR i ≠ s.mapGR j := fun i j hne heq => hne (h.gr_injective i j heq)
  refine ⟨fun i j hne v => ?_, fun i j hne b => ?_, fun i j hne v => ?_, fun i j hne b => ?_⟩
  · by_cases hi : i = 0
    · rw [setGR, if_pos hi]
      exact ⟨rfl, rfl⟩
    · rw [setGR, if_neg hi]
      by_cases hj : j = 0
      · simp only [getGR, getGRNaT, if_pos hj, and_self]
      · simp only [getGR, getGRNaT, if_neg hj]
        exact ⟨GRFile.get_set_ne (hmap i j hne) v, GRFile.getNaT_set_ne (hmap i j hne) v⟩
  · by_cases hi : i = 0
    · rw [setGRNaT, if_pos hi]
      exact ⟨rfl, rfl⟩
    · rw [setGRNaT, if_neg hi]
      by_cases hj : j = 0
      · simp only [getGR, getGRNaT, if_pos hj, and_self]
      · simp only [getGR, getGRNaT, if_neg hj]
        exact ⟨GRFile.get_setNaT _ _ _ _, GRFile.getNaT_setNaT_ne (hmap i j hne) b⟩
  · exact FRFile.getPhysical_setPhysical_ne (fun heq => hne (h.fr_injective i j heq)) s.fr v
  · by_cases hi : i = 0
    · rw [setPR, if_pos hi]
    · rw [getPR_eq, getPR_eq, setPR, if_neg hi]
      exact PRFile.getPhysical_setPhysical_ne (fun heq => hne (h.pr_injective i j heq)) s.pr b

theorem shifts_of_grSize_le (h : s.grSize ≤ 96) (k : Nat) : Shifts s k := by
  have hrotated := s.rotatedBy_iterate k
  refine ⟨fun r hr hsize => ?_, fun r hr => ?_, fun r hr => ?_⟩
  · have hlt := Nat.mod_lt (r.val - 32 + k) (y := s.grSize) (by omega)
    refine ⟨⟨32 + (r.val - 32 + k) % s.grSize, by omega⟩, rfl, ?_⟩
    have hmap : (rotateRegisters^[k] s).mapGR (32 + (r.val - 32 + k) % s.grSize) = s.mapGR r :=
      @RotatedBy.mapGR _ _ _ hrotated r ⟨32 + (r.val - 32 + k) % s.grSize, by omega⟩ hr hsize rfl
    have hne : r ≠ 0 := by
      rintro rfl
      exact absurd hr (by decide)
    have hne' : (⟨32 + (r.val - 32 + k) % s.grSize, by omega⟩ : Fin 128) ≠ 0 := by
      intro heq
      have hval := congrArg Fin.val heq
      simp at hval
    rw [getGR, getGR, getGRNaT, getGRNaT, if_neg hne, if_neg hne, if_neg hne', if_neg hne', hmap, hrotated.gr]
    exact ⟨rfl, rfl⟩
  · refine ⟨⟨32 + (r.val - 32 + k) % 96, by omega⟩, rfl, ?_⟩
    rw [getFR, getFR, hrotated.mapFR hr rfl, hrotated.fr]
  · refine ⟨⟨16 + (r.val - 16 + k) % 48, by omega⟩, rfl, ?_⟩
    rw [getPR_eq, getPR_eq, hrotated.mapPR hr rfl, s.pr_iterate k]

/-- **Which frames rename.** Those whose rotating region lies within the stacked registers: in a larger one the last
    register moves on to a register that does not exist. -/
theorem renamesOnly_iff (s : CPUState) : RenamesOnly s ↔ s.grSize ≤ 96 := by
  constructor
  · intro h
    by_contra hlarge
    -- the last register would move on to `GR128`
    obtain ⟨r', hnext, _⟩ := (h 1).2.2.gr 127 (by decide) (by show 127 < _; omega)
    have hlt := r'.isLt
    have hlast : (127 : Fin 128).val - 32 + 1 = 96 := rfl
    rw [hlast, Nat.mod_eq_of_lt (by omega)] at hnext
    omega
  · intro h k
    have hsize := (s.rotatedBy_iterate k).grSize_eq
    have hapart := noAliasing_of_grSize_le (s := rotateRegisters^[k] s) (by omega)
    exact ⟨hapart, hapart.writesApart, shifts_of_grSize_le h k⟩

/-! ## Frames of `alloc` -/

/-- The frame marker that `ALLOC` installs, if it accepts the sizes. -/
def allocFrame (immediate : UInt64) : Option UInt64 :=
  let sof := (immediate &&& 0x7F).toUInt8
  let sol := ((immediate >>> 7) &&& 0x7F).toUInt8
  let sor := ((immediate >>> 14) &&& 0xF).toUInt8
  if sol > sof ∨ sof > 96 ∨ sor > sof then none
  else some (sof.toUInt64 ||| (sol.toUInt64 <<< 7) ||| (sor.toUInt64 <<< 14))

/-- The frame that is installed has the rotating size asked for. -/
theorem getSOR_allocFrame {immediate cfm : UInt64} (h : allocFrame immediate = some cfm) (s : CPUState) :
    (s.setCFM cfm).getSOR = ((immediate >>> 14) &&& 0xF).toUInt8 := by
  unfold allocFrame at h
  dsimp only at h
  split at h
  · cases h
  · obtain rfl := Option.some.inj h
    unfold getSOR
    rw [cfm_setCFM]
    refine congrArg UInt64.toUInt8 (ext_bits fun i hi => ?_)
    simp only [bit_and, bit_or, bit_shiftRight, bit_shiftLeft, bit_lowByte]
    have hsof := bit_mask (m := 0x7F) (w := 7) rfl
    have hsor := bit_mask (m := 0xF) (w := 4) rfl
    -- bits 14 to 17 come from the third field alone
    by_cases hin : i < 4
    · have hword : 14 + i < 64 := by omega
      have hsol : 7 ≤ 14 + i := by omega
      have hpast : ¬ 14 + i - 7 < 7 := by omega
      have hbyte : i < 8 := by omega
      simp [hsof, hsor, hin, hword, hsol, hpast, hbyte]
    · simp [hsor, hin]

/-- **Register rotation renames without aliasing** in the frames of `alloc` that ask for at most 96 rotating
    registers, and in no other, whichever bank of `GR16`–`GR31` is selected. -/
theorem alloc_renames_iff : ∀ (s : CPUState) (immediate cfm : UInt64), allocFrame immediate = some cfm →
    (RenamesOnly (s.setCFM cfm) ↔ (immediate >>> 14) &&& 0xF ≤ 12) := by
  intro s immediate cfm h
  have hsor := getSOR_allocFrame h s
  have hmask : (0xF : UInt64).toNat = 2 ^ 4 - 1 := rfl
  have hlt : ((immediate >>> 14) &&& 0xF).toNat < 2 ^ 4 := by
    rw [UInt64.toNat_and, hmask, Nat.and_two_pow_sub_one_eq_mod]
    exact Nat.mod_lt _ (by decide)
  have hsize : (s.setCFM cfm).grSize = ((immediate >>> 14) &&& 0xF).toNat * 8 := by
    rw [grSize, hsor, toNat_field_toUInt8 (by omega)]
  have htwelve : (12 : UInt64).toNat = 12 := rfl
  rw [renamesOnly_iff, hsize, UInt64.le_iff_toNat_le, htwelve]
  omega

/-- `alloc r32 = ar.pfs, 96, 0, 12`. -/
theorem alloc_renames_iff_twelve : RenamesOnly (reset.setCFM 0x30060) :=
  (alloc_renames_iff reset 0x30060 0x30060 (by decide)).mpr (by decide)

/-- **A frame that aliases**: `alloc` accepts 13 times eight rotating registers. After one rotation `GR32` lies where
    the second bank keeps `GR23`, and `GR127` has moved on to no register. -/
theorem alloc_aliases :
    allocFrame 0x34060 = some 0x34060 ∧ ¬ RenamesOnly (reset.setCFM 0x34060) ∧
      (reset.setCFM 0x34060).rotateRegisters.mapGR 32 = (reset.setCFM 0x34060).rotateRegisters.mapGR 23 := by
  refine ⟨by decide, ?_, by decide +kernel⟩
  rw [renamesOnly_iff]
  decide +kernel

/-! ## Modulo-scheduled loops -/

/-- **`ExecuteBrCTop`.** -/
def executeBrCTop (s : CPUState) : Bool × CPUState := s.executeModuloLoopStage false

/-- **`ExecuteBrCExit`.** -/
def executeBrCExit (s : CPUState) : Bool × CPUState := s.executeModuloLoopStage true

/-- The processor after `k` executions of `br.ctop`. -/
def afterBrCTop (s : CPUState) (k : Nat) : CPUState := (fun t => t.executeBrCTop.2)^[k] s

theorem afterBrCTop_succ (s : CPUState) (k : Nat) :
    s.afterBrCTop (k + 1) = (s.afterBrCTop k).executeBrCTop.2 := Function.iterate_succ_apply' _ k s

/-- `t` is `s` with its registers renamed `k` times: the frame marker is that after `k` rotations, no value has moved in
    the file of the general registers or of the floating-point registers, and the predicates have moved on by `k`. -/
structure RenamedTimes (k : Nat) (s t : CPUState) : Prop where
  cfm : t.cfm = (rotateRegisters^[k] s).cfm
  psr : t.psr = s.psr
  gr : t.gr = s.gr
  fr : t.fr = s.fr
  pr_static : ∀ r : Fin 64, r.val < 16 → t.getPR r = s.getPR r
  pr : ∀ r r' : Fin 64, 16 ≤ r.val → r'.val = r.val + k → t.getPR r' = s.getPR r

theorem RenamedTimes.refl (s : CPUState) : RenamedTimes 0 s s := by
  refine ⟨rfl, rfl, rfl, rfl, fun _ _ => rfl, fun r r' _ hnext => ?_⟩
  rw [Fin.ext hnext]

theorem cfm_rotateRegisters_congr (h : s.cfm = t.cfm) : s.rotateRegisters.cfm = t.rotateRegisters.cfm := by
  unfold rotateRegisters getSOR getRRB_GR getRRB_FR getRRB_PR
  rw [h]
  rfl

section
variable (s : CPUState)

theorem getAR_setPR (i : Fin 64) (b : Bool) (j : Fin 128) : (s.setPR i b).getAR j = s.getAR j := by
  unfold setPR
  split <;> rfl

theorem getAR_rotateRegisters (i : Fin 128) : s.rotateRegisters.getAR i = s.getAR i := rfl

theorem frame_setPR (i : Fin 64) (b : Bool) :
    (s.setPR i b).cfm = s.cfm ∧ (s.setPR i b).psr = s.psr ∧ (s.setPR i b).gr = s.gr ∧ (s.setPR i b).fr = s.fr := by
  unfold setPR
  split <;> exact ⟨rfl, rfl, rfl, rfl⟩

/-- A predicate that was written reads so. -/
theorem getPR_setPR_self {i : Fin 64} (h : i ≠ 0) (b : Bool) : (s.setPR i b).getPR i = b := by
  have hmap : s.mapPR i ≠ 0 := mt mapPR_eq_zero.mp h
  rw [getPR_eq, setPR, if_neg h]
  show (s.pr.setPhysical (s.mapPR i) b).getPhysical (s.mapPR i) = b
  rw [PRFile.setPhysical, dif_neg hmap, PRFile.getPhysical, if_neg hmap]
  exact Vector.getElem_set_self _

theorem getPR_setPR_ne {i j : Fin 64} (h : i ≠ j) (b : Bool) : (s.setPR i b).getPR j = s.getPR j := by
  by_cases hi : i = 0
  · rw [setPR, if_pos hi]
  · rw [getPR_eq, getPR_eq, setPR, if_neg hi]
    exact PRFile.getPhysical_setPhysical_ne (fun heq => h (mapPR_injective heq)) s.pr b

/-- A rotation moves the predicates on by one, the last one to the front. -/
theorem getPR_rotateRegisters {r r' : Fin 64} (h : 16 ≤ r.val)
    (hnext : r'.val = 16 + (r.val - 16 + 1) % 48) : s.rotateRegisters.getPR r' = s.getPR r := by
  have hmap := ((RotatedBy.refl s).rotate).mapPR h hnext
  rw [getPR_eq, getPR_eq, hmap]
  rfl

theorem getPR_rotateRegisters_static {r : Fin 64} (h : r.val < 16) : s.rotateRegisters.getPR r = s.getPR r := by
  rw [getPR_eq, getPR_eq, mapPR_static _ h, mapPR_static _ h]
  rfl

end

/-- A stage that rotates: the last predicate is written, a counter runs down, and the registers are renamed. -/
theorem rotated_stage {k : Nat} (h : RenamedTimes k s t) (i : Fin 128) (v : UInt64) (b : Bool) :
    let next := ((t.setAR i v).setPR 63 b).rotateRegisters
    RenamedTimes (k + 1) s next ∧ next.getPR 16 = b ∧ ∀ j, next.getAR j = (t.setAR i v).getAR j := by
  obtain ⟨hcfm, hpsr, hgr, hfr⟩ := (t.setAR i v).frame_setPR 63 b
  have hpr : ∀ r : Fin 64, r.val < 63 → ((t.setAR i v).setPR 63 b).getPR r = t.getPR r := by
    intro r hr
    have hne : (63 : Fin 64) ≠ r := by
      rintro rfl
      exact absurd hr (by decide)
    exact getPR_setPR_ne _ hne b
  refine ⟨⟨?_, hpsr.trans h.psr, hgr.trans h.gr, hfr.trans h.fr, fun r hr => ?_, fun r r' hr hnext => ?_⟩, ?_,
    fun j => ?_⟩
  · rw [Function.iterate_succ_apply']
    exact cfm_rotateRegisters_congr (hcfm.trans h.cfm)
  · rw [getPR_rotateRegisters_static _ hr, hpr r (by omega), h.pr_static r hr]
  · -- below the last predicate nothing was written
    have hlt := r'.isLt
    have hlast : (⟨r.val + k, by omega⟩ : Fin 64).val = r.val + k := rfl
    rw [getPR_rotateRegisters _ (r := ⟨r.val + k, by omega⟩) (by omega) (by rw [hlast]; omega),
      hpr _ (by omega), h.pr r _ hr hlast]
  · rw [getPR_rotateRegisters _ (r := 63) (by decide) rfl]
    exact getPR_setPR_self _ (by decide) b
  · rw [getAR_rotateRegisters, getAR_setPR]

/-- The loop after `k` stages: `LC` runs down first, and `EC` after it. -/
structure AtStage (s : CPUState) (k : Nat) (t : CPUState) : Prop where
  renamed : RenamedTimes k s t
  lc : (t.getAR 65).toNat = (s.getAR 65).toNat - k
  ec : (t.getAR 66).toNat = (s.getAR 66).toNat - (k - (s.getAR 65).toNat)
  stage : 0 < k → t.getPR 16 = decide (k ≤ (s.getAR 65).toNat)

theorem toNat_pred {x : UInt64} (h : x ≠ 0) : (x - 1).toNat = x.toNat - 1 := by
  have hone : (1 : UInt64) ≤ x := by
    rw [UInt64.le_iff_toNat_le, UInt64.toNat_one]
    exact Nat.one_le_iff_ne_zero.mpr fun hzero => h (UInt64.toNat_inj.mp hzero)
  exact UInt64.toNat_sub_of_le _ _ hone

/-- **One stage**, of those that the two counters ask for: the branch is taken unless it is the last of them. -/
theorem AtStage.step {k : Nat} (h : AtStage s k t) (hstages : 1 ≤ (s.getAR 66).toNat)
    (hlt : k < (s.getAR 65).toNat + (s.getAR 66).toNat) :
    t.executeBrCTop.1 = decide (k + 1 < (s.getAR 65).toNat + (s.getAR 66).toNat) ∧
      AtStage s (k + 1) t.executeBrCTop.2 := by
  obtain ⟨hrenamed, hlc, hec, _⟩ := h
  have hother : ∀ v : UInt64, (t.setAR 65 v).getAR 66 = t.getAR 66 := getAR_setAR_ne (by decide) t
  have hother' : ∀ v : UInt64, (t.setAR 66 v).getAR 65 = t.getAR 65 := getAR_setAR_ne (by decide) t
  unfold executeBrCTop executeModuloLoopStage
  dsimp only
  by_cases hzero : t.getAR 65 = 0
  · rw [hzero, UInt64.toNat_zero] at hlc
    rw [if_neg (not_not.mpr hzero)]
    by_cases hmore : t.getAR 66 > 1
    · -- the epilogue goes on
      have hone : 1 < (t.getAR 66).toNat := hmore
      obtain ⟨hnext, hpr, har⟩ := rotated_stage hrenamed 66 (t.getAR 66 - 1) false
      have hpred := toNat_pred (x := t.getAR 66) (by rintro heq; rw [heq] at hone; exact absurd hone (by decide))
      rw [if_pos hmore]
      refine ⟨?_, hnext, ?_, ?_, fun _ => ?_⟩
      · exact (decide_eq_true (by omega)).symm
      · rw [har, hother', hzero, UInt64.toNat_zero]
        omega
      · rw [har, getAR_setAR_self, hpred]
        omega
      · rw [hpr]
        exact (decide_eq_false (by omega)).symm
    · -- the last stage
      have hle : ¬ 1 < (t.getAR 66).toNat := hmore
      have hlast : t.getAR 66 = 1 := by
        refine UInt64.toNat_inj.mp ?_
        rw [UInt64.toNat_one]
        omega
      obtain ⟨hnext, hpr, har⟩ := rotated_stage hrenamed 66 0 false
      rw [hlast, UInt64.toNat_one] at hec
      rw [if_neg hmore, if_pos hlast]
      refine ⟨?_, hnext, ?_, ?_, fun _ => ?_⟩
      · exact (decide_eq_false (by omega)).symm
      · rw [har, hother', hzero, UInt64.toNat_zero]
        omega
      · rw [har, getAR_setAR_self, UInt64.toNat_zero]
        omega
      · rw [hpr]
        exact (decide_eq_false (by omega)).symm
  · -- the loop proper
    have hpos : (t.getAR 65).toNat ≠ 0 := fun heq => hzero (UInt64.toNat_inj.mp heq)
    obtain ⟨hnext, hpr, har⟩ := rotated_stage hrenamed 65 (t.getAR 65 - 1) true
    rw [if_pos hzero]
    refine ⟨?_, hnext, ?_, ?_, fun _ => ?_⟩
    · exact (decide_eq_true (by omega)).symm
    · rw [har, getAR_setAR_self, toNat_pred hzero]
      omega
    · rw [har, hother]
      omega
    · rw [hpr]
      exact (decide_eq_true (by omega)).symm

theorem atStage_afterBrCTop (s : CPUState) (hstages : 1 ≤ (s.getAR 66).toNat) {k : Nat}
    (hle : k ≤ (s.getAR 65).toNat + (s.getAR 66).toNat) : AtStage s k (s.afterBrCTop k) := by
  induction k with
  | zero =>
      refine ⟨.refl s, rfl, ?_, fun h => absurd h (lt_irrefl 0)⟩
      rw [Nat.zero_sub, Nat.sub_zero]
      rfl
  | succ k ih =>
      rw [afterBrCTop_succ]
      exact ((ih (by omega)).step hstages hle).2

/-- `br.cexit` does what `br.ctop` does and branches when that does not. -/
theorem executeBrCExit_eq (s : CPUState) : s.executeBrCExit = (!s.executeBrCTop.1, s.executeBrCTop.2) := by
  unfold executeBrCExit executeBrCTop executeModuloLoopStage
  dsimp only
  split
  · rfl
  · split
    · rfl
    · split <;> rfl

/-- **Modulo-scheduled loops run the right number of stages**: with `LC` at `n` and `EC` at `m` the loop branches back
    `n + m - 1` times and falls through at the next, both counters being zero then. The first `n` stages start an
    iteration, and each stage renames the registers once. -/
theorem modulo_loop : ∀ (s : CPUState) (n m : Nat), (s.getAR 65).toNat = n → (s.getAR 66).toNat = m → 1 ≤ m →
    (∀ k < n + m - 1, (s.afterBrCTop k).executeBrCTop.1 = true) ∧
      (s.afterBrCTop (n + m - 1)).executeBrCTop.1 = false ∧
      (s.afterBrCTop (n + m)).getAR 65 = 0 ∧ (s.afterBrCTop (n + m)).getAR 66 = 0 ∧
      (∀ k, 1 ≤ k → k ≤ n + m → ((s.afterBrCTop k).getPR 16 = true ↔ k ≤ n)) ∧
      RenamedTimes (n + m) s (s.afterBrCTop (n + m)) ∧
      ∀ t : CPUState, t.executeBrCExit = (!t.executeBrCTop.1, t.executeBrCTop.2) := by
  rintro s n m rfl rfl hstages
  have hat : ∀ k ≤ (s.getAR 65).toNat + (s.getAR 66).toNat, AtStage s k (s.afterBrCTop k) :=
    fun k => s.atStage_afterBrCTop hstages
  have hend := hat _ le_rfl
  refine ⟨fun k hk => ?_, ?_, ?_, ?_, fun k hpos hk => ?_, hend.renamed, executeBrCExit_eq⟩
  · rw [((hat k (by omega)).step hstages (by omega)).1]
    exact decide_eq_true (by omega)
  · rw [((hat _ (Nat.sub_le _ 1)).step hstages (by omega)).1]
    exact decide_eq_false (by omega)
  · have hlc := hend.lc
    exact UInt64.toNat_inj.mp (by rw [hlc, UInt64.toNat_zero]; omega)
  · have hec := hend.ec
    exact UInt64.toNat_inj.mp (by rw [hec, UInt64.toNat_zero]; omega)
  · rw [(hat k hk).stage hpos, decide_eq_true_iff]

/-- Three iterations of a loop of two stages. -/
theorem modulo_loop_five :
    (((reset.setAR 65 3).setAR 66 2).afterBrCTop 4).executeBrCTop.1 = false ∧
      RenamedTimes 5 ((reset.setAR 65 3).setAR 66 2) (((reset.setAR 65 3).setAR 66 2).afterBrCTop 5) := by
  have h := modulo_loop ((reset.setAR 65 3).setAR 66 2) 3 2 (by decide) (by decide) (by decide)
  exact ⟨h.2.1, h.2.2.2.2.2.1⟩

end CPUState

end GuideXOS.Core
