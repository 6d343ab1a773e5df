import GuideXOS.Isa.Interrupts

/-!
# `IntervalTimer` — one request for each programming of the timer

`AR.ITC` counts, `CR.ITM` says when, `CR.ITV` which vector or none. What the three registers are after a run of ticks
and writes does not depend on the requests raised on the way, so the timer is first described by its registers alone
(`IntervalTimer`). The timer of the plugin then raises its one request in the first state of a programming that is due.
-/

namespace GuideXOS.Isa
open Lib Lib.Words Lib.Runs GuideXOS.Core

/-! ## The registers -/

/-- The registers of the interval timer. -/
@[ext] structure IntervalTimer where
  itc : UInt64
  itm : UInt64
  itv : UInt64
  deriving DecidableEq

/-- Ticks, and writes of the two control registers. -/
inductive TimerOp where
  | advanceITC (ticks : UInt64)
  | writeITV (value : UInt64)
  | writeITM (value : UInt64)

namespace TimerOp

def programs : TimerOp → Bool
  | writeITM _ => true
  | _ => false

def ticks : TimerOp → Nat
  | advanceITC ticks => ticks.toNat
  | _ => 0

end TimerOp

namespace IntervalTimer

variable (t : IntervalTimer)

def step : TimerOp → IntervalTimer
  | .advanceITC ticks => { t with itc := t.itc + ticks }
  | .writeITV value => { t with itv := value }
  | .writeITM value => { t with itm := value }

/-- The counter has reached the match value: the difference, as a signed number, is not negative. -/
def Reached : Prop := ¬ (t.itc - t.itm).toInt64 < 0

def vector : UInt8 := (t.itv &&& 0xFF).toUInt8

/-- The timer may raise a request: it is unmasked, and its vector is above 15. -/
def Unmasked : Prop := t.itv &&& IA64_ITV_MASK = 0 ∧ IA64_SPURIOUS_INT_VECTOR < t.vector

def Due : Prop := t.Reached ∧ t.Unmasked

instance (t : IntervalTimer) : Decidable t.Reached := inferInstanceAs (Decidable (¬ _))

instance (t : IntervalTimer) : Decidable t.Unmasked := inferInstanceAs (Decidable (_ ∧ _))

instance (t : IntervalTimer) : Decidable t.Due := inferInstanceAs (Decidable (_ ∧ _))

end IntervalTimer

/-! ## The timer of the plugin -/

section Plugin
variable {I : Type _}

/-- The registers, as the processor has them. -/
def IA64ISAPlugin.intervalTimer (p : IA64ISAPlugin I) : IntervalTimer :=
  ⟨p.cpu.getAR IA64_AR_ITC, p.cpu.getCR IA64_CR_ITM, p.cpu.getCR IA64_CR_ITV⟩

/-- Programmed, and no request raised since. -/
def IA64ISAPlugin.Armed (p : IA64ISAPlugin I) : Prop :=
  p.interrupts.intervalTimerConfigured = true ∧ p.interrupts.timerCompareLatched = false

def TimerOp.toInterruptOp : TimerOp → InterruptOp
  | advanceITC ticks => .advanceITC ticks
  | writeITV value => .writeControlRegister IA64_CR_ITV.val value
  | writeITM value => .writeControlRegister IA64_CR_ITM.val value

def TimerOp.apply (p : IA64ISAPlugin I) (op : TimerOp) : IA64ISAPlugin I := InterruptOp.apply p op.toInterruptOp

variable {p : IA64ISAPlugin I}

theorem updateIntervalTimer_of_due (harmed : p.Armed) (hdue : p.intervalTimer.Due) :
    p.updateIntervalTimer = { p.setPending (p.state.pendingInterrupts ++ [p.intervalTimer.vector]) with
      interrupts := { p.interrupts with timerCompareLatched := true } } := by
  obtain ⟨hconfigured, hlatched⟩ := harmed
  obtain ⟨hreached, hmask, hvector⟩ := hdue
  have hopen : (!p.interrupts.intervalTimerConfigured || p.interrupts.timerCompareLatched ||
      p.cpu.getCR IA64_CR_ITV &&& IA64_ITV_MASK != 0 ||
      decide ((p.cpu.getAR IA64_AR_ITC - p.cpu.getCR IA64_CR_ITM).toInt64 < 0)) = false := by
    simp only [hconfigured, hlatched, Bool.not_true, Bool.false_or, Bool.or_eq_false_iff, bne_eq_false_iff_eq,
      decide_eq_false_iff_not]
    exact ⟨hmask, hreached⟩
  have habove : ¬ (p.cpu.getCR IA64_CR_ITV &&& 0xFF).toUInt8 ≤ IA64_SPURIOUS_INT_VECTOR := not_le.mpr hvector
  unfold IA64ISAPlugin.updateIntervalTimer
  dsimp only
  rw [hopen, if_neg Bool.false_ne_true, if_neg habove]
  rfl

theorem updateIntervalTimer_of_not (h : ¬ (p.Armed ∧ p.intervalTimer.Due)) : p.updateIntervalTimer = p := by
  unfold IA64ISAPlugin.updateIntervalTimer
  dsimp only
  split
  · rfl
  · next hopen =>
    split
    · rfl
    · next hvector =>
      refine absurd ?_ h
      simp only [Bool.or_eq_true, not_or, Bool.not_eq_true', Bool.not_eq_false, Bool.not_eq_true, bne_iff_ne, ne_eq,
        not_not, decide_eq_true_eq] at hopen
      obtain ⟨⟨⟨hconfigured, hlatched⟩, hmask⟩, hreached⟩ := hopen
      exact ⟨⟨hconfigured, hlatched⟩, hreached, hmask, not_le.mp hvector⟩

/-! ## One operation -/

/-- The plugin with the registers written, before it looks at them. -/
def TimerOp.write (p : IA64ISAPlugin I) : TimerOp → IA64ISAPlugin I
  | advanceITC ticks => p.setCpu (p.cpu.advanceITC ticks)
  | writeITV value => p.setCpu (p.cpu.setCR IA64_CR_ITV value)
  | writeITM value => { p.setCpu (p.cpu.setCR IA64_CR_ITM value) with
      interrupts := { p.interrupts with timerCompareLatched := false, intervalTimerConfigured := true } }

section
variable (p : IA64ISAPlugin I) (op : TimerOp)

theorem TimerOp.apply_eq : op.apply p = (op.write p).updateIntervalTimer := by
  cases op with
  | advanceITC ticks => rfl
  | writeITV value => rfl
  | writeITM value => rfl

theorem pending_write : (op.write p).state.pendingInterrupts = p.state.pendingInterrupts := by
  cases op with
  | advanceITC ticks => rfl
  | writeITV value => rfl
  | writeITM value => rfl

theorem intervalTimer_write : (op.write p).intervalTimer = p.intervalTimer.step op := by
  cases op with
  | advanceITC ticks =>
      have hitc : (p.cpu.advanceITC ticks).getAR IA64_AR_ITC = p.cpu.getAR IA64_AR_ITC + ticks :=
        Vector.getElem_set_self _
      exact IntervalTimer.ext hitc rfl rfl
  | writeITV value =>
      have hne : IA64_CR_ITV ≠ IA64_CR_ITM := by decide
      exact IntervalTimer.ext rfl (CPUState.getCR_setCR_ne hne _ _) (CPUState.getCR_setCR_self _ _ _)
  | writeITM value =>
      have hne : IA64_CR_ITM ≠ IA64_CR_ITV := by decide
      exact IntervalTimer.ext rfl (CPUState.getCR_setCR_self _ _ _) (CPUState.getCR_setCR_ne hne _ _)

theorem armed_write : (op.write p).Armed ↔ op.programs = true ∨ p.Armed := by
  cases op with
  | advanceITC ticks => exact ⟨Or.inr, fun h => h.resolve_left Bool.false_ne_true⟩
  | writeITV value => exact ⟨Or.inr, fun h => h.resolve_left Bool.false_ne_true⟩
  | writeITM value => exact ⟨fun _ => Or.inl rfl, fun _ => ⟨rfl, rfl⟩⟩

end

theorem intervalTimer_updateIntervalTimer (p : IA64ISAPlugin I) :
    p.updateIntervalTimer.intervalTimer = p.intervalTimer := by
  by_cases h : p.Armed ∧ p.intervalTimer.Due
  · rw [updateIntervalTimer_of_due h.1 h.2]
    rfl
  · rw [updateIntervalTimer_of_not h]

/-! ## Runs -/

/-- **The registers over a run** do not depend on the requests. -/
theorem intervalTimer_run (ops : List TimerOp) :
    ∀ p : IA64ISAPlugin I, (run TimerOp.apply p ops).intervalTimer = run IntervalTimer.step p.intervalTimer ops := by
  induction ops with
  | nil =>
      intro p
      rfl
  | cons op ops ih =>
      intro p
      rw [run_cons, run_cons, ih, TimerOp.apply_eq, intervalTimer_updateIntervalTimer, intervalTimer_write]

/-- A timer that is not armed raises nothing before it is programmed. -/
theorem pending_run_of_not_armed {ops : List TimerOp} (hops : ∀ op ∈ ops, op.programs = false) :
    ∀ {p : IA64ISAPlugin I}, ¬ p.Armed →
      (run TimerOp.apply p ops).state.pendingInterrupts = p.state.pendingInterrupts := by
  induction ops with
  | nil =>
      intro p _
      rfl
  | cons op ops ih =>
      intro p harmed
      obtain ⟨hop, hrest⟩ := List.forall_mem_cons.mp hops
      have hwrite : ¬ (op.write p).Armed := by
        rw [armed_write, hop]
        exact fun h => h.elim Bool.false_ne_true harmed
      have happly : op.apply p = op.write p := by
        rw [TimerOp.apply_eq]
        exact updateIntervalTimer_of_not fun h => hwrite h.1
      rw [run_cons, happly, ih hrest hwrite, pending_write]

/-- **An armed timer raises one request**, in the first state that is due. -/
theorem pending_run_of_armed {ops : List TimerOp} (hops : ∀ op ∈ ops, op.programs = false) :
    ∀ {p : IA64ISAPlugin I}, p.Armed →
      ((∀ k ≤ ops.length, ¬ (run IntervalTimer.step p.intervalTimer (ops.take k)).Due) ∧
          (run TimerOp.apply p.updateIntervalTimer ops).state.pendingInterrupts = p.state.pendingInterrupts) ∨
        ∃ k ≤ ops.length, (run IntervalTimer.step p.intervalTimer (ops.take k)).Due ∧
          (∀ j < k, ¬ (run IntervalTimer.step p.intervalTimer (ops.take j)).Due) ∧
          (run TimerOp.apply p.updateIntervalTimer ops).state.pendingInterrupts =
            p.state.pendingInterrupts ++ [(run IntervalTimer.step p.intervalTimer (ops.take k)).vector] := by
  induction ops with
  | nil =>
      intro p harmed
      by_cases hdue : p.intervalTimer.Due
      · refine Or.inr ⟨0, le_rfl, hdue, fun j hj => absurd hj (Nat.not_lt_zero j), ?_⟩
        rw [updateIntervalTimer_of_due harmed hdue]
        rfl
      · refine Or.inl ⟨fun k _ => ?_, ?_⟩
        · rw [List.take_nil]
          exact hdue
        · rw [updateIntervalTimer_of_not fun h => hdue h.2]
          rfl
  | cons op ops ih =>
      intro p harmed
      obtain ⟨hop, hrest⟩ := List.forall_mem_cons.mp hops
      by_cases hdue : p.intervalTimer.Due
      · -- the request is raised now, and nothing is raised later
        refine Or.inr ⟨0, Nat.zero_le _, hdue, fun j hj => absurd hj (Nat.not_lt_zero j), ?_⟩
        have hlatched : ¬ p.updateIntervalTimer.Armed := by
          rw [updateIntervalTimer_of_due harmed hdue]
          exact fun h => Bool.false_ne_true h.2.symm
        rw [pending_run_of_not_armed hops hlatched, updateIntervalTimer_of_due harmed hdue]
        rfl
      · have hidle : p.updateIntervalTimer = p := updateIntervalTimer_of_not fun h => hdue h.2
        have hwrite : (op.write p).Armed := (armed_write p op).mpr (Or.inr harmed)
        have hstep := ih hrest hwrite
        rw [intervalTimer_write, pending_write] at hstep
        rw [hidle, run_cons, TimerOp.apply_eq]
        rcases hstep with ⟨hnever, hpending⟩ | ⟨k, hk, hfirst, hbefore, hpending⟩
        · refine Or.inl ⟨?_, hpending⟩
          intro k hk
          cases k with
          | zero => exact hdue
          | succ k => exact hnever k (Nat.le_of_succ_le_succ hk)
        · refine Or.inr ⟨k + 1, Nat.succ_le_succ hk, hfirst, ?_, hpending⟩
          intro j hj
          cases j with
          | zero => exact hdue
          | succ j => exact hbefore j (Nat.lt_of_succ_lt_succ hj)

/-! ## A comparison that waits -/

namespace IntervalTimer

/-- How far the counter is past the match value, around the word. -/
def distance (t : IntervalTimer) : Nat := (t.itc - t.itm).toNat

theorem reached_iff (t : IntervalTimer) : t.Reached ↔ t.distance < 2 ^ 63 := by
  rw [Reached, distance, Int64.lt_iff_toInt_lt, not_lt]
  have hint : (t.itc - t.itm).toInt64.toInt = (t.itc - t.itm).toBitVec.toInt := rfl
  have hnat : (t.itc - t.itm).toBitVec.toNat = (t.itc - t.itm).toNat := rfl
  have hlt := (t.itc - t.itm).toNat_lt
  rw [hint, BitVec.toInt_eq_toNat_cond, hnat, Int64.toInt_zero]
  split <;> omega

/-- The ticks of a run move the counter on. -/
theorem distance_run {ops : List TimerOp} (hops : ∀ op ∈ ops, op.programs = false) :
    ∀ {t : IntervalTimer}, t.distance + (ops.map TimerOp.ticks).sum < 2 ^ 64 →
      (run step t ops).distance = t.distance + (ops.map TimerOp.ticks).sum := by
  induction ops with
  | nil =>
      intro t _
      rfl
  | cons op ops ih =>
      intro t hbound
      obtain ⟨hop, hrest⟩ := List.forall_mem_cons.mp hops
      rw [List.map_cons, List.sum_cons] at hbound ⊢
      have hstep : (t.step op).distance = t.distance + op.ticks := by
        cases op with
        | advanceITC ticks =>
            have hticks : (TimerOp.advanceITC ticks).ticks = ticks.toNat := rfl
            rw [hticks] at hbound ⊢
            simp only [distance] at hbound ⊢
            have hmoved : t.itc + ticks - t.itm = t.itc - t.itm + ticks := by
              rw [UInt64.sub_eq_add_neg, UInt64.add_assoc, UInt64.add_comm ticks, ← UInt64.add_assoc,
                ← UInt64.sub_eq_add_neg]
            rw [step, hmoved, UInt64.toNat_add]
            exact Nat.mod_eq_of_lt (by omega)
        | writeITV value => rfl
        | writeITM value => cases hop
      rw [run_cons, ih hrest (by omega), hstep]
      omega

/-- **A comparison that has been reached stays reached**, until the counter is half a word past it. -/
theorem reached_run {ops : List TimerOp} (hops : ∀ op ∈ ops, op.programs = false) {t : IntervalTimer}
    (hbound : t.distance + (ops.map TimerOp.ticks).sum < 2 ^ 63) : (run step t ops).Reached := by
  rw [reached_iff, distance_run hops (by omega)]
  exact hbound

end IntervalTimer

/-- **The timer is one-shot.** After a write of the match value the registers alone say when the request is raised:
    in the first state that is due, and never again. A comparison reached under the mask is raised when the mask is
    gone, unless the counter is half a word past it by then. A timer that is not programmed raises nothing. -/
theorem intervalTimer_oneShot (p : IA64ISAPlugin I) (value : UInt64) (ops : List TimerOp)
    (hops : ∀ op ∈ ops, op.programs = false) :
    ((run TimerOp.apply p (.writeITM value :: ops)).intervalTimer =
        run IntervalTimer.step (p.intervalTimer.step (.writeITM value)) ops) ∧
      (((∀ k ≤ ops.length, ¬ (run IntervalTimer.step (p.intervalTimer.step (.writeITM value)) (ops.take k)).Due) ∧
          (run TimerOp.apply p (.writeITM value :: ops)).state.pendingInterrupts = p.state.pendingInterrupts) ∨
        ∃ k ≤ ops.length, (run IntervalTimer.step (p.intervalTimer.step (.writeITM value)) (ops.take k)).Due ∧
          (∀ j < k, ¬ (run IntervalTimer.step (p.intervalTimer.step (.writeITM value)) (ops.take j)).Due) ∧
          (run TimerOp.apply p (.writeITM value :: ops)).state.pendingInterrupts = p.state.pendingInterrupts ++
            [(run IntervalTimer.step (p.intervalTimer.step (.writeITM value)) (ops.take k)).vector]) ∧
      (∀ i ≤ ops.length,
        (run IntervalTimer.step (p.intervalTimer.step (.writeITM value)) (ops.take i)).distance +
            ((ops.drop i).map TimerOp.ticks).sum < 2 ^ 63 →
          (run IntervalTimer.step (p.intervalTimer.step (.writeITM value)) ops).Unmasked →
          ∃ v, (run TimerOp.apply p (.writeITM value :: ops)).state.pendingInterrupts =
            p.state.pendingInterrupts ++ [v]) ∧
      (¬ p.Armed → (run TimerOp.apply p ops).state.pendingInterrupts = p.state.pendingInterrupts) := by
  have hprogrammed : ((TimerOp.writeITM value).write p).Armed := ⟨rfl, rfl⟩
  have htimer := intervalTimer_write p (.writeITM value)
  have hrun := pending_run_of_armed hops hprogrammed
  rw [htimer, pending_write, ← TimerOp.apply_eq, ← run_cons] at hrun
  refine ⟨?_, hrun, ?_, pending_run_of_not_armed hops⟩
  · rw [intervalTimer_run, run_cons]
  · intro i hi hbound hunmasked
    have hlate : ∀ op ∈ ops.drop i, op.programs = false := fun op hop => hops op (List.mem_of_mem_drop hop)
    have hreached := IntervalTimer.reached_run hlate hbound
    rw [← run_append, List.take_append_drop] at hreached
    rcases hrun with ⟨hnever, -⟩ | ⟨k, -, -, -, hpending⟩
    · have hlast := hnever ops.length le_rfl
      rw [List.take_length] at hlast
      exact absurd ⟨hreached, hunmasked⟩ hlast
    · exact ⟨_, hpending⟩

end Plugin

/-- Programmed, and raised once by the second of three ticks. -/
theorem intervalTimer_oneShot_ticks :
    ∃ v, (run TimerOp.apply (IA64ISAPlugin.reset (I := Unit)).2
        [.writeITM 2, .writeITV 0x40, .advanceITC 1, .advanceITC 1, .advanceITC 1]).state.pendingInterrupts =
      (IA64ISAPlugin.reset (I := Unit)).2.state.pendingInterrupts ++ [v] :=
  (intervalTimer_oneShot (IA64ISAPlugin.reset (I := Unit)).2 2
      [.writeITV 0x40, .advanceITC 1, .advanceITC 1, .advanceITC 1] (by simp [TimerOp.programs])).2.2.1 4 le_rfl
    (by decide +kernel) (by decide +kernel)

/-- A comparison reached under the mask is forgotten when the counter runs on for half a word. -/
theorem intervalTimer_loses : ¬ ∀ (p : IA64ISAPlugin Unit) (value : UInt64) (ops : List TimerOp) (i : Nat),
    (∀ op ∈ ops, op.programs = false) → i ≤ ops.length →
      (run IntervalTimer.step (p.intervalTimer.step (.writeITM value)) (ops.take i)).Reached →
      (run IntervalTimer.step (p.intervalTimer.step (.writeITM value)) ops).Unmasked →
      ∃ v, (run TimerOp.apply p (.writeITM value :: ops)).state.pendingInterrupts =
        p.state.pendingInterrupts ++ [v] := by
  intro hclaim
  obtain ⟨v, hv⟩ := hclaim (IA64ISAPlugin.reset (I := Unit)).2 0
    [.writeITV 0x10040, .advanceITC 0x8000000000000000, .writeITV 0x40] 1 (by simp [TimerOp.programs]) (by decide)
    (by decide +kernel) (by decide +kernel)
  have hnone : (run TimerOp.apply (IA64ISAPlugin.reset (I := Unit)).2 [.writeITM 0, .writeITV 0x10040,
      .advanceITC 0x8000000000000000, .writeITV 0x40]).state.pendingInterrupts = [] := by decide +kernel
  rw [hnone] at hv
  exact List.cons_ne_nil _ _ (List.append_eq_nil_iff.mp hv.symm).2

end GuideXOS.Isa
