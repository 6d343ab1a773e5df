import GuideXOS.Machine.Devices

/-!
# `TimerTicks` — time that is split differently

`Tick` adds the cycles to those that have elapsed and then raises one interrupt for each interval that has passed. How
the cycles are split among several ticks makes no difference: the loop is a division, and what is left over is carried.
The only sum that may not overflow is the one of the elapsed cycles.
-/

namespace GuideXOS.Machine
open Lib.Runs GuideXOS.Vm

namespace VirtualTimer

/-! ## The loop -/

/-- The body of the loop: one interval has passed, and a timer that is not periodic stops. -/
def expired (t : VirtualTimer) : VirtualTimer :=
  let raised := { t with elapsedCycles := t.elapsedCycles - t.intervalCycles, interruptPending := true }
  if t.periodic then raised else { raised with enabled := false, elapsedCycles := 0 }

/-- The condition of the loop. -/
def Expires (t : VirtualTimer) : Prop :=
  t.enabled = true ∧ 0 < t.intervalCycles ∧ t.intervalCycles ≤ t.elapsedCycles

instance (t : VirtualTimer) : Decidable t.Expires := inferInstanceAs (Decidable (_ ∧ _))

variable {t : VirtualTimer} {cycles : UInt64}

/-- A periodic timer has fewer cycles left, and another one is disabled. -/
theorem expired_lt (h : t.Expires) :
    (if t.expired.enabled then t.expired.elapsedCycles.toNat + 1 else 0) <
      if t.enabled then t.elapsedCycles.toNat + 1 else 0 := by
  obtain ⟨henabled, hpos, hle⟩ := h
  have hpos' : 0 < t.intervalCycles.toNat := UInt64.lt_iff_toNat_lt.mp hpos
  have hle' : t.intervalCycles.toNat ≤ t.elapsedCycles.toNat := UInt64.le_iff_toNat_le.mp hle
  rw [if_pos henabled]
  unfold expired
  cases t.periodic with
  | true =>
      have hsub : (t.elapsedCycles - t.intervalCycles).toNat = t.elapsedCycles.toNat - t.intervalCycles.toNat :=
        UInt64.toNat_sub_of_le _ _ hle
      rw [if_pos rfl]
      dsimp only
      rw [if_pos henabled, hsub]
      omega
  | false => exact Nat.succ_pos _

/-- The loop of **`Tick`**, with the vectors that it raises. -/
def expiries (t : VirtualTimer) : VirtualTimer × List UInt8 :=
  if h : t.Expires then
    have := expired_lt h
    (t.expired.expiries.1, t.interruptVector :: t.expired.expiries.2)
  else (t, [])
termination_by if t.enabled then t.elapsedCycles.toNat + 1 else 0

/-- **`Tick`**, as the source computes it. -/
def tickByLoop (t : VirtualTimer) (cycles : UInt64) : VirtualTimer × List UInt8 :=
  if t.enabled = false ∨ t.intervalCycles = 0 ∨ cycles = 0 then (t, [])
  else expiries { t with elapsedCycles := t.elapsedCycles + cycles }

theorem expiries_of_not (h : ¬ t.Expires) : t.expiries = (t, []) := by
  rw [expiries, dif_neg h]

theorem expiries_of (h : t.Expires) :
    t.expiries = (t.expired.expiries.1, t.interruptVector :: t.expired.expiries.2) := by
  rw [expiries, dif_pos h]

/-- **The loop of a periodic timer divides.** By induction on the cycles that have elapsed. -/
theorem expiries_periodic (henabled : t.enabled = true) (hpos : 0 < t.intervalCycles)
    (hperiodic : t.periodic = true) :
    t.expiries = ({ t with
        elapsedCycles := t.elapsedCycles % t.intervalCycles
        interruptPending := t.interruptPending || decide (t.intervalCycles ≤ t.elapsedCycles) },
      List.replicate (t.elapsedCycles.toNat / t.intervalCycles.toNat) t.interruptVector) := by
  have hpos' : 0 < t.intervalCycles.toNat := UInt64.lt_iff_toNat_lt.mp hpos
  generalize hn : t.elapsedCycles.toNat = n
  induction n using Nat.strong_induction_on generalizing t with
  | _ n ih =>
    by_cases hle : t.intervalCycles ≤ t.elapsedCycles
    · have hle' : t.intervalCycles.toNat ≤ n := hn ▸ UInt64.le_iff_toNat_le.mp hle
      have hexpired : t.expired =
          { t with elapsedCycles := t.elapsedCycles - t.intervalCycles, interruptPending := true } := by
        rw [expired, if_pos hperiodic]
      have hsub : (t.elapsedCycles - t.intervalCycles).toNat = n - t.intervalCycles.toNat := by
        rw [UInt64.toNat_sub_of_le _ _ hle, hn]
      have hrest := ih (n - t.intervalCycles.toNat) (by omega) (t := t.expired) (by rw [hexpired]; exact henabled)
        (by rw [hexpired]; exact hpos) (by rw [hexpired]; exact hperiodic) (by rw [hexpired]; exact hpos')
        (by rw [hexpired]; exact hsub)
      have hmod : (t.elapsedCycles - t.intervalCycles) % t.intervalCycles = t.elapsedCycles % t.intervalCycles := by
        rw [← UInt64.toNat_inj, UInt64.toNat_mod, UInt64.toNat_mod, hsub, hn]
        exact (Nat.mod_eq_sub_mod hle').symm
      have hdiv : n / t.intervalCycles.toNat = (n - t.intervalCycles.toNat) / t.intervalCycles.toNat + 1 :=
        Nat.div_eq_sub_div hpos' hle'
      rw [expiries_of ⟨henabled, hpos, hle⟩, hrest, hexpired]
      dsimp only
      rw [hmod, hdiv, List.replicate_succ, decide_eq_true hle, Bool.or_true, Bool.true_or]
    · have hlt : n < t.intervalCycles.toNat := hn ▸ UInt64.lt_iff_toNat_lt.mp (UInt64.not_le.mp hle)
      have hmod : t.elapsedCycles % t.intervalCycles = t.elapsedCycles := by
        rw [← UInt64.toNat_inj, UInt64.toNat_mod, hn]
        exact Nat.mod_eq_of_lt hlt
      rw [expiries_of_not fun h => hle h.2.2, hmod, Nat.div_eq_of_lt hlt, decide_eq_false hle, Bool.or_false]
      rfl

/-- **The loop of a one-shot timer** is left after one expiry. -/
theorem expiries_once (h : t.Expires) (hperiodic : t.periodic = false) :
    t.expiries = ({ t with elapsedCycles := 0, enabled := false, interruptPending := true }, [t.interruptVector]) := by
  have hexpired : t.expired = { t with elapsedCycles := 0, enabled := false, interruptPending := true } := by
    rw [expired, hperiodic, if_neg Bool.false_ne_true]
  rw [expiries_of h, hexpired, expiries_of_not fun h => Bool.false_ne_true h.1]

/-- **The closed form.** -/
theorem tickByLoop_eq (t : VirtualTimer) (cycles : UInt64) : t.tickByLoop cycles = t.tick cycles := by
  unfold tickByLoop tick
  by_cases hoff : t.enabled = false ∨ t.intervalCycles = 0 ∨ cycles = 0
  · rw [if_pos hoff, if_pos hoff]
  rw [if_neg hoff, if_neg hoff]
  obtain ⟨henabled, hinterval, -⟩ := not_or.mp hoff |>.imp_right not_or.mp
  have henabled' : t.enabled = true := Bool.eq_true_of_not_eq_false henabled
  have hpos : 0 < t.intervalCycles := UInt64.pos_iff_ne_zero.mpr hinterval
  dsimp only
  by_cases hlt : t.elapsedCycles + cycles < t.intervalCycles
  · rw [if_pos hlt, expiries_of_not fun h => absurd h.2.2 (UInt64.not_le.mpr hlt)]
  rw [if_neg hlt]
  have hle : t.intervalCycles ≤ t.elapsedCycles + cycles := UInt64.not_lt.mp hlt
  by_cases hperiodic : t.periodic = true
  · have hloop := expiries_periodic (t := { t with elapsedCycles := t.elapsedCycles + cycles }) henabled' hpos hperiodic
    rw [if_pos hperiodic, hloop]
    dsimp only
    rw [decide_eq_true hle, Bool.or_true, ← UInt64.toNat_div]
  · have honce : t.periodic = false := Bool.eq_false_iff.mpr hperiodic
    rw [if_neg hperiodic]
    exact expiries_once (t := { t with elapsedCycles := t.elapsedCycles + cycles }) ⟨henabled', hpos, hle⟩ honce

/-! ## One tick -/

/-- The timer counts. -/
def Running (t : VirtualTimer) : Prop := t.enabled = true ∧ t.intervalCycles ≠ 0

theorem tick_of_not_running (h : ¬ t.Running) (cycles : UInt64) : t.tick cycles = (t, []) := by
  have hoff : t.enabled = false ∨ t.intervalCycles = 0 ∨ cycles = 0 := by
    by_cases henabled : t.enabled = true
    · exact .inr (.inl (not_not.mp fun hne => h ⟨henabled, hne⟩))
    · exact .inl (Bool.eq_false_iff.mpr henabled)
  rw [tick, if_pos hoff]

@[simp] theorem tick_zero (t : VirtualTimer) : t.tick 0 = (t, []) := by
  rw [tick, if_pos (.inr (.inr rfl))]

theorem Running.not_off (h : t.Running) (hne : cycles ≠ 0) :
    ¬(t.enabled = false ∨ t.intervalCycles = 0 ∨ cycles = 0) := by
  rintro (henabled | hzero | hzero)
  · rw [h.1] at henabled
    cases henabled
  · exact h.2 hzero
  · exact hne hzero

theorem Running.pos (h : t.Running) : 0 < t.intervalCycles.toNat :=
  Nat.pos_of_ne_zero fun hzero => h.2 (UInt64.toNat_inj.mp hzero)

/-- **A tick of a periodic timer**, whether an interval has passed or not. -/
theorem tick_periodic (h : t.Running) (hperiodic : t.periodic = true) (hne : cycles ≠ 0) :
    t.tick cycles = ({ t with
        elapsedCycles := (t.elapsedCycles + cycles) % t.intervalCycles
        interruptPending := t.interruptPending || decide (t.intervalCycles ≤ t.elapsedCycles + cycles) },
      List.replicate ((t.elapsedCycles + cycles) / t.intervalCycles).toNat t.interruptVector) := by
  unfold tick
  rw [if_neg (h.not_off hne)]
  dsimp only
  by_cases hlt : t.elapsedCycles + cycles < t.intervalCycles
  · have hlt' : (t.elapsedCycles + cycles).toNat < t.intervalCycles.toNat := UInt64.lt_iff_toNat_lt.mp hlt
    have hmod : (t.elapsedCycles + cycles) % t.intervalCycles = t.elapsedCycles + cycles := by
      rw [← UInt64.toNat_inj, UInt64.toNat_mod, Nat.mod_eq_of_lt hlt']
    rw [if_pos hlt, hmod, UInt64.toNat_div, Nat.div_eq_of_lt hlt', decide_eq_false (UInt64.not_le.mpr hlt),
      Bool.or_false]
    rfl
  · rw [if_neg hlt, if_pos hperiodic, decide_eq_true (UInt64.not_lt.mp hlt), Bool.or_true]

/-- **A tick of a one-shot timer.** -/
theorem tick_once (h : t.Running) (hperiodic : ¬ t.periodic = true) (hne : cycles ≠ 0) :
    t.tick cycles = if t.elapsedCycles + cycles < t.intervalCycles then
        ({ t with elapsedCycles := t.elapsedCycles + cycles }, [])
      else ({ t with elapsedCycles := 0, enabled := false, interruptPending := true }, [t.interruptVector]) := by
  unfold tick
  rw [if_neg (h.not_off hne)]
  dsimp only
  rw [if_neg hperiodic]

/-! ## Two ticks -/

section Split
variable {t : VirtualTimer} {a b : UInt64}

theorem toNat_add_of_lt {x y : UInt64} (h : x.toNat + y.toNat < 2 ^ 64) : (x + y).toNat = x.toNat + y.toNat := by
  rw [UInt64.toNat_add, Nat.mod_eq_of_lt h]

/-- What is left of the first tick, and the second tick. -/
theorem carried (n e a b : ℕ) : ((e + a) % n + b) % n = (e + (a + b)) % n ∧
    (0 < n → (e + a) / n + ((e + a) % n + b) / n = (e + (a + b)) / n) ∧
    ((n ≤ e + a ∨ n ≤ (e + a) % n + b) ↔ n ≤ e + (a + b)) := by
  refine ⟨?_, fun hpos => ?_, ?_⟩
  · rw [Nat.mod_add_mod, Nat.add_assoc]
  · have hsplit : e + (a + b) = n * ((e + a) / n) + ((e + a) % n + b) := by
      rw [← Nat.add_assoc, ← Nat.add_assoc, Nat.div_add_mod]
    rw [hsplit, Nat.mul_add_div hpos]
  · by_cases hle : n ≤ e + a
    · exact iff_of_true (.inl hle) (by omega)
    · rw [Nat.mod_eq_of_lt (by omega)]
      omega

theorem tick_tick_periodic (h : t.Running) (hperiodic : t.periodic = true) (ha : a ≠ 0) (hb : b ≠ 0) (hab : a + b ≠ 0)
    (hfits : t.elapsedCycles.toNat + a.toNat + b.toNat < 2 ^ 64) :
    ((t.tick a).1.tick b).1 = (t.tick (a + b)).1 ∧ (t.tick a).2 ++ ((t.tick a).1.tick b).2 = (t.tick (a + b)).2 := by
  have hfirst : (t.elapsedCycles + a).toNat = t.elapsedCycles.toNat + a.toNat := toNat_add_of_lt (by omega)
  have htotal : (a + b).toNat = a.toNat + b.toNat := toNat_add_of_lt (by omega)
  have hwhole : (t.elapsedCycles + (a + b)).toNat = t.elapsedCycles.toNat + (a.toNat + b.toNat) := by
    rw [toNat_add_of_lt (by omega), htotal]
  have hleft : ((t.elapsedCycles + a) % t.intervalCycles).toNat =
      (t.elapsedCycles.toNat + a.toNat) % t.intervalCycles.toNat := by
    rw [UInt64.toNat_mod, hfirst]
  have hsmall := Nat.mod_le (t.elapsedCycles.toNat + a.toNat) t.intervalCycles.toNat
  have hsecond : ((t.elapsedCycles + a) % t.intervalCycles + b).toNat =
      (t.elapsedCycles.toNat + a.toNat) % t.intervalCycles.toNat + b.toNat := by
    rw [toNat_add_of_lt (by omega), hleft]
  obtain ⟨hmod, hdiv, hle⟩ := carried t.intervalCycles.toNat t.elapsedCycles.toNat a.toNat b.toNat
  have hmod' : ((t.elapsedCycles + a) % t.intervalCycles + b) % t.intervalCycles =
      (t.elapsedCycles + (a + b)) % t.intervalCycles := by
    rw [← UInt64.toNat_inj, UInt64.toNat_mod, UInt64.toNat_mod, hsecond, hwhole]
    exact hmod
  have hle' : (decide (t.intervalCycles ≤ t.elapsedCycles + a) ||
      decide (t.intervalCycles ≤ (t.elapsedCycles + a) % t.intervalCycles + b)) =
        decide (t.intervalCycles ≤ t.elapsedCycles + (a + b)) := by
    rw [← Bool.decide_or, decide_eq_decide, UInt64.le_iff_toNat_le, UInt64.le_iff_toNat_le, UInt64.le_iff_toNat_le,
      hfirst, hsecond, hwhole]
    exact hle
  rw [tick_periodic h hperiodic ha, tick_periodic h hperiodic hab]
  rw [tick_periodic (t := { t with
    elapsedCycles := (t.elapsedCycles + a) % t.intervalCycles
    interruptPending := t.interruptPending || decide (t.intervalCycles ≤ t.elapsedCycles + a) }) h hperiodic hb]
  dsimp only
  refine ⟨?_, ?_⟩
  · rw [hmod', Bool.or_assoc, hle']
  · rw [List.replicate_append_replicate, UInt64.toNat_div, UInt64.toNat_div, UInt64.toNat_div, hfirst, hsecond, hwhole,
      hdiv h.pos]

theorem tick_tick_once (h : t.Running) (hperiodic : ¬ t.periodic = true) (ha : a ≠ 0) (hb : b ≠ 0) (hab : a + b ≠ 0)
    (hfits : t.elapsedCycles.toNat + a.toNat + b.toNat < 2 ^ 64) :
    ((t.tick a).1.tick b).1 = (t.tick (a + b)).1 ∧ (t.tick a).2 ++ ((t.tick a).1.tick b).2 = (t.tick (a + b)).2 := by
  have hfirst : (t.elapsedCycles + a).toNat = t.elapsedCycles.toNat + a.toNat := toNat_add_of_lt (by omega)
  have hsum : t.elapsedCycles + a + b = t.elapsedCycles + (a + b) := UInt64.add_assoc ..
  have hwhole : (t.elapsedCycles + (a + b)).toNat = t.elapsedCycles.toNat + a.toNat + b.toNat := by
    rw [← hsum, toNat_add_of_lt (by omega), hfirst]
  rw [tick_once h hperiodic ha, tick_once h hperiodic hab]
  by_cases hlt : t.elapsedCycles + a < t.intervalCycles
  · rw [if_pos hlt, tick_once (t := { t with elapsedCycles := t.elapsedCycles + a }) h hperiodic hb]
    dsimp only
    rw [hsum]
    exact ⟨rfl, rfl⟩
  · have hge : ¬ t.elapsedCycles + (a + b) < t.intervalCycles := by
      rw [UInt64.lt_iff_toNat_lt] at hlt ⊢
      omega
    rw [if_neg hlt, if_neg hge, tick_of_not_running fun hrunning => Bool.false_ne_true hrunning.1]
    exact ⟨rfl, rfl⟩

/-- **Two ticks are one**, for every timer, where the elapsed cycles do not overflow. -/
theorem tick_tick (hfits : t.elapsedCycles.toNat + a.toNat + b.toNat < 2 ^ 64) :
    ((t.tick a).1.tick b).1 = (t.tick (a + b)).1 ∧ (t.tick a).2 ++ ((t.tick a).1.tick b).2 = (t.tick (a + b)).2 := by
  by_cases hrunning : t.Running
  · by_cases ha : a = 0
    · subst ha
      rw [tick_zero, UInt64.zero_add]
      exact ⟨rfl, rfl⟩
    by_cases hb : b = 0
    · subst hb
      rw [tick_zero, UInt64.add_zero]
      exact ⟨rfl, List.append_nil _⟩
    have hab : a + b ≠ 0 := by
      intro hzero
      have htotal : (a + b).toNat = a.toNat + b.toNat := toNat_add_of_lt (by omega)
      rw [hzero, UInt64.toNat_zero] at htotal
      exact ha (UInt64.toNat_inj.mp (by rw [UInt64.toNat_zero]; omega))
    by_cases hperiodic : t.periodic = true
    · exact tick_tick_periodic hrunning hperiodic ha hb hab hfits
    · exact tick_tick_once hrunning hperiodic ha hb hab hfits
  · rw [tick_of_not_running hrunning, tick_of_not_running hrunning, tick_of_not_running hrunning]
    exact ⟨rfl, rfl⟩

end Split

/-! ## The other operations -/

/-- One byte of a register. -/
def withByte (word : UInt64) (k : ℕ) (value : UInt8) : UInt64 :=
  (word &&& ~~~((0xFF : UInt64) <<< UInt64.ofNat (8 * k))) ||| (value.toUInt64 <<< UInt64.ofNat (8 * k))

/-- **`Write`** of one byte, at its offset. -/
def writeByte (t : VirtualTimer) (offset : ℕ) (value : UInt8) : VirtualTimer :=
  if offset = 0 then
    let enabled := value &&& 0x01 != 0
    { t with
      enabled := enabled
      periodic := value &&& 0x02 != 0
      elapsedCycles := if enabled then t.elapsedCycles else 0 }
  else if 8 ≤ offset ∧ offset < 16 then
    { t with intervalCycles := withByte t.intervalCycles (offset - 8) value, elapsedCycles := 0 }
  else if offset = 16 then { t with interruptVector := value }
  else if offset = 17 ∧ value ≠ 0 then { t with interruptPending := false }
  else t

/-- **`Configure`.** -/
def configure (t : VirtualTimer) (intervalCycles : UInt64) (vector : UInt8) (periodic enabled : Bool) : VirtualTimer :=
  { t with
    intervalCycles := intervalCycles
    interruptVector := vector
    periodic := periodic
    enabled := enabled
    elapsedCycles := 0
    interruptPending := false }

/-- What is done to a timer. -/
inductive TimerOp where
  | write (offset : ℕ) (data : List UInt8)
  | tick (cycles : UInt64)
  | configure (intervalCycles : UInt64) (vector : UInt8) (periodic enabled : Bool)
  | acknowledge
  | reset

/-- One operation. -/
def step (t : VirtualTimer) : TimerOp → VirtualTimer
  | .write offset data => data.zipIdx.foldl (fun t (value, index) => t.writeByte (offset + index) value) t
  | .tick cycles => (t.tickByLoop cycles).1
  | .configure intervalCycles vector periodic enabled => t.configure intervalCycles vector periodic enabled
  | .acknowledge => { t with interruptPending := false }
  | .reset => t.reset

/-- Less than an interval has elapsed. -/
def Counted (t : VirtualTimer) : Prop := t.elapsedCycles.toNat = 0 ∨ t.elapsedCycles.toNat < t.intervalCycles.toNat

theorem Counted.lt (h : t.Counted) (hrunning : t.Running) : t.elapsedCycles.toNat < t.intervalCycles.toNat := by
  rcases h with hzero | hlt
  · rw [hzero]
    exact hrunning.pos
  · exact hlt

theorem counted_writeByte (h : t.Counted) (offset : ℕ) (value : UInt8) : (t.writeByte offset value).Counted := by
  unfold writeByte
  split
  · dsimp only
    split
    · exact h
    · exact .inl rfl
  split
  · exact .inl rfl
  split
  · exact h
  split
  · exact h
  · exact h

theorem counted_tick (h : t.Counted) (cycles : UInt64) : (t.tick cycles).1.Counted := by
  by_cases hrunning : t.Running
  · by_cases hzero : cycles = 0
    · rwa [hzero, tick_zero]
    by_cases hperiodic : t.periodic = true
    · rw [tick_periodic hrunning hperiodic hzero]
      refine .inr ?_
      dsimp only
      rw [UInt64.toNat_mod]
      exact Nat.mod_lt _ hrunning.pos
    · rw [tick_once hrunning hperiodic hzero]
      split
      · next hlt => exact .inr (UInt64.lt_iff_toNat_lt.mp hlt)
      · exact .inl rfl
  · rwa [tick_of_not_running hrunning]

theorem counted_step (t : VirtualTimer) (op : TimerOp) (h : t.Counted) : (t.step op).Counted := by
  cases op with
  | write offset data =>
      show (data.zipIdx.foldl (fun t (value, index) => t.writeByte (offset + index) value) t).Counted
      generalize data.zipIdx = bytes
      induction bytes generalizing t with
      | nil => exact h
      | cons byte bytes ih => exact ih _ (counted_writeByte h _ _)
  | tick cycles =>
      show (t.tickByLoop cycles).1.Counted
      rw [tickByLoop_eq]
      exact counted_tick h cycles
  | configure => exact .inl rfl
  | acknowledge => exact h
  | reset => exact .inl rfl

/-- **In every reachable state** less than an interval has elapsed. -/
theorem counted_run (baseAddress : UInt64) (ops : List TimerOp) :
    (run step ({ baseAddress := baseAddress } : VirtualTimer) ops).Counted :=
  run_invariant Counted (P := fun _ _ => True) (fun t op h _ => counted_step t op h) (.inl rfl)
    (everyStep_of_forall fun _ _ => trivial)

/-! ## Many ticks -/

/-- Ticks one after another, with the vectors that all of them raise. -/
def ticks (t : VirtualTimer) : List UInt64 → VirtualTimer × List UInt8
  | [] => (t, [])
  | cycles :: rest =>
      let (t', vectors) := t.tickByLoop cycles
      ((t'.ticks rest).1, vectors ++ (t'.ticks rest).2)

theorem ticks_of_not_enabled (h : t.enabled = false) (cycles : List UInt64) : t.ticks cycles = (t, []) := by
  induction cycles with
  | nil => rfl
  | cons a cycles ih =>
      rw [ticks, tickByLoop_eq, tick_of_not_running fun hrunning => Bool.false_ne_true (h.symm.trans hrunning.1)]
      dsimp only
      rw [ih]
      rfl

/-- **A one-shot timer raises at most one interrupt** in any run of ticks, and is disabled by it. -/
theorem ticks_once (hperiodic : t.periodic = false) (cycles : List UInt64) :
    (t.ticks cycles).2 = [] ∨ ((t.ticks cycles).2 = [t.interruptVector] ∧ (t.ticks cycles).1.enabled = false) := by
  induction cycles generalizing t with
  | nil => exact .inl rfl
  | cons a cycles ih =>
      rw [ticks, tickByLoop_eq]
      dsimp only
      by_cases hrunning : t.Running
      · by_cases hzero : a = 0
        · rw [hzero, tick_zero]
          exact ih hperiodic
        rw [tick_once hrunning (Bool.eq_false_iff.mp hperiodic) hzero]
        split
        · exact ih (t := { t with elapsedCycles := t.elapsedCycles + a }) hperiodic
        · rw [ticks_of_not_enabled rfl]
          exact .inr ⟨rfl, rfl⟩
      · rw [tick_of_not_running hrunning]
        exact ih hperiodic

/-- **Ticks are additive.** The counts of a periodic timer are those of a division. Where nothing is added this needs
that less than an interval has elapsed, as it has in every reachable state. -/
theorem ticks_additive :
    (∀ (t : VirtualTimer) (a b : UInt64), t.elapsedCycles.toNat + a.toNat + b.toNat < 2 ^ 64 →
      ((t.tickByLoop a).1.tickByLoop b).1 = (t.tickByLoop (a + b)).1 ∧
      (t.tickByLoop a).2 ++ ((t.tickByLoop a).1.tickByLoop b).2 = (t.tickByLoop (a + b)).2 ∧
      (t.Running → t.periodic = true → t.Counted ∨ a + b ≠ 0 →
        (t.tickByLoop (a + b)).2.length = (t.elapsedCycles.toNat + (a.toNat + b.toNat)) / t.intervalCycles.toNat ∧
        (t.tickByLoop (a + b)).1.elapsedCycles < t.intervalCycles)) ∧
    (∀ (t : VirtualTimer) (cycles : List UInt64), t.periodic = false →
      (t.ticks cycles).2.length ≤ 1 ∧
      ((t.ticks cycles).2 ≠ [] → (t.ticks cycles).1.enabled = false ∧
        ∀ later, (t.ticks cycles).1.ticks later = ((t.ticks cycles).1, []))) ∧
    ∀ (baseAddress : UInt64) (ops : List TimerOp), (run step ({ baseAddress := baseAddress } : VirtualTimer) ops).Counted := by
  refine ⟨fun t a b hfits => ?_, fun t cycles hperiodic => ?_, counted_run⟩
  · simp only [tickByLoop_eq]
    obtain ⟨hstate, hvectors⟩ := tick_tick hfits
    refine ⟨hstate, hvectors, fun hrunning hperiodic hcounted => ?_⟩
    have htotal : (a + b).toNat = a.toNat + b.toNat := toNat_add_of_lt (by omega)
    have helapsed : (t.elapsedCycles + (a + b)).toNat = t.elapsedCycles.toNat + (a.toNat + b.toNat) := by
      rw [toNat_add_of_lt (by omega), htotal]
    by_cases hzero : a + b = 0
    · have hlt := (hcounted.resolve_right (not_not.mpr hzero)).lt hrunning
      rw [hzero, UInt64.toNat_zero] at htotal
      rw [hzero, tick_zero, ← htotal, Nat.add_zero, Nat.div_eq_of_lt hlt]
      exact ⟨rfl, UInt64.lt_iff_toNat_lt.mpr hlt⟩
    · rw [tick_periodic hrunning hperiodic hzero]
      dsimp only
      rw [List.length_replicate, UInt64.toNat_div, helapsed, UInt64.lt_iff_toNat_lt, UInt64.toNat_mod]
      exact ⟨rfl, Nat.mod_lt _ hrunning.pos⟩
  · rcases ticks_once hperiodic cycles with hnone | ⟨hone, hdisabled⟩
    · rw [hnone]
      exact ⟨Nat.zero_le _, fun h => absurd rfl h⟩
    · rw [hone]
      exact ⟨le_rfl, fun _ => ⟨hdisabled, ticks_of_not_enabled hdisabled⟩⟩

/-- A timer of ten cycles, with seven of them elapsed, and eight and twenty more. -/
theorem ticks_additive_three :
    let t : VirtualTimer := { baseAddress := 0, intervalCycles := 10, elapsedCycles := 7, enabled := true }
    ((t.tickByLoop 8).1.tickByLoop 20).1 = (t.tickByLoop 28).1 ∧ (t.tickByLoop 28).2.length = 3 :=
  have h := ticks_additive.1 { baseAddress := 0, intervalCycles := 10, elapsedCycles := 7, enabled := true } 8 20 (by decide)
  ⟨h.1, (h.2.2 ⟨rfl, by decide⟩ rfl (.inr (by decide))).1⟩

end VirtualTimer

end GuideXOS.Machine
