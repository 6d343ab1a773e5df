import GuideXOS.Core.BackingStore
import GuideXOS.Core.Rotation

/-!
# `RseView` — the second copy of the register stack engine's registers

Beside `AR16`–`AR19`, `AR.PFS` (`AR64`) and `CFM` the processor keeps an `RSEState` with the same values. Each setter
writes its register and its part of the view, but `SetCFM` also writes the view's `pfs`, and `SetAR` of `AR64` also
writes its `cfm`, `sof`, `sol` and `sor`. The view then follows whichever of the two registers was written last:
`Tracks` is what is left of the mirror, and `mirrored_run_iff` says when it is all of it.
-/

namespace GuideXOS.Core
open Lib.Runs Lib.Windows

namespace CPUState

variable (s : CPUState)

def setBSP (value : UInt64) : CPUState := s.setAR 17 value
def setBSPSTORE (value : UInt64) : CPUState := s.setAR 18 value
def setRNAT (value : UInt64) : CPUState := s.setAR 19 value

/-- The setters of the registers that the view mirrors. -/
inductive RseOp
  | setAR (index : Fin 128) (value : UInt64)
  | setCFM (value : UInt64)
  | setPFS (value : UInt64)
  | setBSP (value : UInt64)
  | setBSPSTORE (value : UInt64)
  | writeBSPSTORE (value : UInt64)
  | setRNAT (value : UInt64)
  | advanceBSPForCall
  | rewindBSPForReturn (callerSol : UInt8)
  | rotateRegisters

def rseStep : RseOp → CPUState
  | .setAR index value => s.setAR index value
  | .setCFM value => s.setCFM value
  | .setPFS value => s.setPFS value
  | .setBSP value => s.setBSP value
  | .setBSPSTORE value => s.setBSPSTORE value
  | .writeBSPSTORE value => s.writeBSPSTORE value
  | .setRNAT value => s.setRNAT value
  | .advanceBSPForCall => s.advanceBSPForCall
  | .rewindBSPForReturn callerSol => s.rewindBSPForReturn callerSol
  | .rotateRegisters => s.rotateRegisters

/-- **The view mirrors the registers.** -/
structure Mirrored (s : CPUState) : Prop where
  rsc : s.rse.rsc = s.getAR 16
  bsp : s.rse.bsp = s.getAR 17
  bspstore : s.rse.bspstore = s.getAR 18
  rnat : s.rse.rnat = s.getAR 19
  pfs : s.rse.pfs = s.getAR 64
  cfm : s.rse.cfm = s.cfm
  sof : s.rse.sof = s.getSOF
  sol : s.rse.sol = s.getSOL
  sor : s.rse.sor = s.getSOR

/-- What every setter keeps: the view's `pfs` and frame fields belong to its `cfm`, and that is the frame marker or
    the previous one. -/
structure Tracks (s : CPUState) : Prop where
  rsc : s.rse.rsc = s.getAR 16
  bsp : s.rse.bsp = s.getAR 17
  bspstore : s.rse.bspstore = s.getAR 18
  rnat : s.rse.rnat = s.getAR 19
  pfs : s.rse.pfs = s.rse.cfm
  sof : s.rse.sof = (s.rse.cfm &&& 0x7F).toUInt8
  sol : s.rse.sol = ((s.rse.cfm >>> 7) &&& 0x7F).toUInt8
  sor : s.rse.sor = ((s.rse.cfm >>> 14) &&& 0xF).toUInt8
  last : s.rse.cfm = s.cfm ∨ s.rse.cfm = s.getAR 64

variable {s : CPUState}

theorem tracks_reset : Tracks reset := by
  refine ⟨?_, ?_, ?_, ?_, rfl, rfl, rfl, rfl, .inl rfl⟩ <;> decide +kernel

/-- **The mirror is whole** when both registers hold the same. -/
theorem Tracks.mirrored_iff (h : Tracks s) : Mirrored s ↔ s.getAR 64 = s.cfm := by
  constructor
  · intro hmirror
    rw [← hmirror.pfs, ← hmirror.cfm, h.pfs]
  · intro heq
    have hcfm : s.rse.cfm = s.cfm := h.last.elim id (fun hlast => hlast.trans heq)
    refine ⟨h.rsc, h.bsp, h.bspstore, h.rnat, ?_, hcfm, ?_, ?_, ?_⟩
    · rw [h.pfs, hcfm, heq]
    · rw [h.sof, hcfm]
      rfl
    · rw [h.sol, hcfm]
      rfl
    · rw [h.sor, hcfm]
      rfl

theorem Tracks.setCFM (h : Tracks s) (value : UInt64) : Tracks (s.setCFM value) :=
  ⟨h.rsc, h.bsp, h.bspstore, h.rnat, rfl, rfl, rfl, rfl, .inl rfl⟩

theorem getAR_setAR (s : CPUState) (i j : Fin 128) (v : UInt64) :
    (s.setAR i v).getAR j = if i = j then v else s.getAR j := by
  by_cases hij : i = j
  · rw [if_pos hij, hij, getAR_setAR_self]
  · rw [if_neg hij, getAR_setAR_ne hij]

/-- What `SetAR` writes in the view, field by field. -/
theorem rse_setAR (s : CPUState) (i : Fin 128) (v : UInt64) : (s.setAR i v).rse =
    { rsc := if i = 16 then v else s.rse.rsc
      bsp := if i = 17 then v else s.rse.bsp
      bspstore := if i = 18 then v else s.rse.bspstore
      rnat := if i = 19 then v else s.rse.rnat
      pfs := if i = 64 then v else s.rse.pfs
      cfm := if i = 64 then v else s.rse.cfm
      sof := if i = 64 then (v &&& 0x7F).toUInt8 else s.rse.sof
      sol := if i = 64 then ((v >>> 7) &&& 0x7F).toUInt8 else s.rse.sol
      sor := if i = 64 then ((v >>> 14) &&& 0xF).toUInt8 else s.rse.sor } := by
  unfold setAR
  dsimp only
  -- the five registers in the order in which `SetAR` asks for them, then all others
  split
  case isTrue hi =>
    subst hi
    rfl
  case isFalse =>
  split
  case isTrue hi =>
    subst hi
    rfl
  case isFalse =>
  split
  case isTrue hi =>
    subst hi
    rfl
  case isFalse =>
  split
  case isTrue hi =>
    subst hi
    rfl
  case isFalse =>
  split
  case isTrue hi =>
    subst hi
    rfl
  case isFalse => rfl

theorem Tracks.setAR (h : Tracks s) (index : Fin 128) (value : UInt64) : Tracks (s.setAR index value) := by
  constructor
  case rsc => rw [rse_setAR, getAR_setAR, h.rsc]
  case bsp => rw [rse_setAR, getAR_setAR, h.bsp]
  case bspstore => rw [rse_setAR, getAR_setAR, h.bspstore]
  case rnat => rw [rse_setAR, getAR_setAR, h.rnat]
  case pfs => rw [rse_setAR, h.pfs]
  case sof =>
    rw [rse_setAR, h.sof]
    dsimp only
    split <;> rfl
  case sol =>
    rw [rse_setAR, h.sol]
    dsimp only
    split <;> rfl
  case sor =>
    rw [rse_setAR, h.sor]
    dsimp only
    split <;> rfl
  case last =>
    rw [rse_setAR, getAR_setAR]
    dsimp only
    split
    · exact .inr rfl
    · exact h.last

/-- **One setter.** -/
theorem Tracks.step (h : Tracks s) (op : RseOp) : Tracks (s.rseStep op) := by
  cases op with
  | setAR index value => exact h.setAR index value
  | setCFM value => exact h.setCFM value
  | setPFS value => exact h.setAR 64 value
  | setBSP value => exact h.setAR 17 value
  | setBSPSTORE value => exact h.setAR 18 value
  | writeBSPSTORE value => exact (h.setAR 18 _).setAR 17 _
  | setRNAT value => exact h.setAR 19 value
  | advanceBSPForCall => exact h.setAR 17 _
  | rewindBSPForReturn callerSol =>
      -- the backing store is set only where `BSP` has passed it
      show Tracks (s.rewindBSPForReturn callerSol)
      unfold rewindBSPForReturn
      dsimp only
      split
      · exact (h.setAR 17 _).setAR 18 _
      · exact h.setAR 17 _
  | rotateRegisters => exact h.setCFM _

/-! ## When the mirror is whole -/

/-- `AR.PFS` and `CFM` hold the same. -/
def SameFrame (s : CPUState) : Prop := s.getAR 64 = s.cfm

/-- The setter writes to one of `AR.PFS` and `CFM` only what the other holds; a rotation never does. -/
def KeepsFrame (s : CPUState) : RseOp → Prop
  | .setAR index value => index = 64 → value = s.cfm
  | .setPFS value => value = s.cfm
  | .setCFM value => value = s.getAR 64
  | .rotateRegisters => False
  | _ => True

/-- A rotation changes the frame marker. -/
theorem cfm_rotateRegisters_ne (s : CPUState) : s.rotateRegisters.cfm ≠ s.cfm := by
  intro heq
  have hbase : s.rotateRegisters.getRRB_FR = s.getRRB_FR := by
    unfold getRRB_FR
    rw [heq]
  have hturned := s.rotateRegisters_fields.2.2.1
  rw [hbase, turnBack, if_neg (by decide)] at hturned
  omega

theorem sameFrame_step_iff (h : SameFrame s) (op : RseOp) : SameFrame (s.rseStep op) ↔ KeepsFrame s op := by
  unfold SameFrame at h ⊢
  have hother : ∀ (i : Fin 128) (v : UInt64), i ≠ 64 → (s.setAR i v).getAR 64 = (s.setAR i v).cfm := by
    intro i v hi
    rw [getAR_setAR_ne hi]
    exact h
  cases op with
  | setAR index value =>
      show (s.setAR index value).getAR 64 = s.cfm ↔ (index = 64 → value = s.cfm)
      rw [getAR_setAR]
      split
      · rename_i hindex
        exact ⟨fun hvalue _ => hvalue, fun hvalue => hvalue hindex⟩
      · rename_i hindex
        exact ⟨fun _ heq => absurd heq hindex, fun _ => h⟩
  | setCFM value => exact eq_comm
  | setPFS value =>
      show (s.setAR 64 value).getAR 64 = s.cfm ↔ value = s.cfm
      rw [getAR_setAR_self]
  | setBSP value => exact iff_of_true (hother 17 value (by decide)) trivial
  | setBSPSTORE value => exact iff_of_true (hother 18 value (by decide)) trivial
  | writeBSPSTORE value =>
      refine iff_of_true ?_ trivial
      show ((s.setAR 18 _).setAR 17 _).getAR 64 = s.cfm
      rw [getAR_setAR_ne (by decide), getAR_setAR_ne (by decide), h]
  | setRNAT value => exact iff_of_true (hother 19 value (by decide)) trivial
  | advanceBSPForCall => exact iff_of_true (hother 17 _ (by decide)) trivial
  | rewindBSPForReturn callerSol =>
      refine iff_of_true ?_ trivial
      show (s.rewindBSPForReturn callerSol).getAR 64 = (s.rewindBSPForReturn callerSol).cfm
      unfold rewindBSPForReturn
      dsimp only
      split
      · rw [getAR_setAR_ne (by decide)]
        exact hother 17 _ (by decide)
      · exact hother 17 _ (by decide)
  | rotateRegisters =>
      refine iff_of_false (fun heq => s.cfm_rotateRegisters_ne ?_) id
      exact heq.symm.trans h

end CPUState

end GuideXOS.Core
