import Mathlib.Data.UInt
import Mathlib.Tactic.Abel
import GuideXOS.Lib.Tallies
import GuideXOS.Machine.BootStates

/-!
# `BootAccounting` — the history is a trail, and the times add up

The successful records of the history are a trail that ends in the current state, and what was charged to the states is
the time from the epoch (the construction, the last reset or the last restore) to the entry of the current state. Both
are kept by a call exactly if it records what happens: a reset is not recorded, a restored state has no entry time, and
time may pass between the two readings of a transition. A state that was never left has no account, so `getTimeInState`
leaves its time out; that is the one thing that may be wrong between the calls (`sum_getTimeInState_iff`).
-/

/-!
## The boot state machine with its clock

The whole of `VMBootStateMachine`: next to the states and the history it keeps when the current state was entered, and
how long every state that was left has lasted. A call reads the clock up to three times, and the readings are given with
the call.

* What the host's conditions answer is given with the call that asks them; nothing is assumed of the answers.
* Callbacks are called for their own sake and are left out.
-/

namespace GuideXOS.Machine

namespace VMBootState

def all : List VMBootState :=
  [POWERED_OFF, POWER_ON, FIRMWARE_INIT, BOOTLOADER_EXEC, KERNEL_LOAD, KERNEL_ENTRY, KERNEL_INIT, INIT_PROCESS,
    USERSPACE_RUNNING, SHUTDOWN_INIT, STOPPING_SERVICES, KERNEL_SHUTDOWN, FIRMWARE_SHUTDOWN, POWER_OFF, BOOT_FAILED,
    KERNEL_PANIC, EMERGENCY_HALT]

theorem mem_all (state : VMBootState) : state ∈ all := by
  cases state <;> simp [all]

instance : Fintype VMBootState where
  elems := all.toFinset
  complete := by
    intro state
    exact List.mem_toFinset.mpr (mem_all state)

end VMBootState

namespace Timed
open Lib.Tallies

/-- What the clock says in the course of a call: when the state being left is charged, when the new one is entered, and
    when the attempt is recorded. -/
structure Readings where
  tracked : UInt64
  entered : UInt64
  recorded : UInt64

structure VMBootStateTransition where
  fromState : VMBootState
  toState : VMBootState
  timestamp : UInt64
  reason : String
  successful : Bool
  deriving DecidableEq

def maxHistorySize : Nat := 1000

structure VMBootStateMachine where
  currentState : VMBootState
  previousState : VMBootState
  currentStateEntryTime : UInt64
  powerOnTime : UInt64
  bootCompleteTime : UInt64
  transitionHistory : List VMBootStateTransition
  stateTimeAccumulator : Tally VMBootState UInt64

namespace VMBootStateMachine

/-- The constructor, at a reading of the clock. -/
def construct (now : UInt64) : VMBootStateMachine where
  currentState := .POWERED_OFF
  previousState := .POWERED_OFF
  currentStateEntryTime := now
  powerOnTime := 0
  bootCompleteTime := 0
  transitionHistory := []
  stateTimeAccumulator := .empty

variable (m : VMBootStateMachine)

/-! ## Times -/

def getTimeInCurrentState (now : UInt64) : UInt64 := now - m.currentStateEntryTime

def updateTimeTracking (now : UInt64) : VMBootStateMachine :=
  { m with stateTimeAccumulator := m.stateTimeAccumulator.charge m.currentState (m.getTimeInCurrentState now) }

/-- **`getTimeInState`.** A state that was never left has no account. -/
def getTimeInState (state : VMBootState) (now : UInt64) : UInt64 :=
  m.stateTimeAccumulator.shown m.currentState (m.getTimeInCurrentState now) state

def getTotalBootTime : UInt64 :=
  if m.bootCompleteTime = 0 ∨ m.powerOnTime = 0 then 0 else m.bootCompleteTime - m.powerOnTime

/-! ## Transitions -/

/-- **`recordTransition`.** The oldest record goes when there are too many. -/
def recordTransition (trans : VMBootStateTransition) : VMBootStateMachine :=
  let history := m.transitionHistory ++ [trans]
  { m with transitionHistory := if maxHistorySize < history.length then history.tail else history }

/-- Leaving the current state for another one. -/
def leaveFor (newState : VMBootState) (clock : Readings) : VMBootStateMachine :=
  { m.updateTimeTracking clock.tracked with
    previousState := m.currentState
    currentState := newState
    currentStateEntryTime := clock.entered }

/-- The two milestones. -/
def markMilestones (oldState newState : VMBootState) (now : UInt64) : VMBootStateMachine :=
  { m with
    powerOnTime := if oldState = .POWERED_OFF ∧ newState = .POWER_ON then now else m.powerOnTime
    bootCompleteTime := if newState = .USERSPACE_RUNNING ∧ m.bootCompleteTime = 0 then now else m.bootCompleteTime }

/-- **`transition`**; `allowed` is what the conditions answer if they are asked. -/
def transition (newState : VMBootState) (reason : String) (allowed : Bool) (clock : Readings) :
    Bool × VMBootStateMachine :=
  if m.currentState.validTransitions.contains newState && allowed then
    (true, ((m.leaveFor newState clock).markMilestones m.currentState newState clock.entered).recordTransition
      ⟨m.currentState, newState, clock.recorded, reason, true⟩)
  else (false, m.recordTransition ⟨m.currentState, newState, clock.recorded, reason, false⟩)

def forceTransition (newState : VMBootState) (reason : String) (clock : Readings) : VMBootStateMachine :=
  (m.leaveFor newState clock).recordTransition ⟨m.currentState, newState, clock.recorded, "FORCED: " ++ reason, true⟩

/-- **`reset`** keeps the history. -/
def reset (clock : Readings) : VMBootStateMachine :=
  { m.leaveFor .POWERED_OFF clock with
    powerOnTime := 0
    bootCompleteTime := 0
    stateTimeAccumulator := .empty }

def powerOn (allowed : Bool) (clock : Readings) : Bool × VMBootStateMachine :=
  if m.currentState ≠ .POWERED_OFF then (false, m) else m.transition .POWER_ON "Power button pressed" allowed clock

def shutdown (allowed : Bool) (clock : Readings) : Bool × VMBootStateMachine :=
  if m.currentState = .POWERED_OFF ∨ m.currentState = .SHUTDOWN_INIT ∨ m.currentState = .STOPPING_SERVICES ∨
      m.currentState = .KERNEL_SHUTDOWN ∨ m.currentState = .FIRMWARE_SHUTDOWN ∨ m.currentState = .POWER_OFF then (false, m)
  else m.transition .SHUTDOWN_INIT "Shutdown initiated" allowed clock

/-- **`restoreCheckpointState`** does not look at the clock. -/
def restoreCheckpointState (currentState previousState : VMBootState) : VMBootStateMachine where
  currentState := currentState
  previousState := previousState
  currentStateEntryTime := 0
  powerOnTime := 0
  bootCompleteTime := 0
  transitionHistory := []
  stateTimeAccumulator := .empty

end VMBootStateMachine

/-! ## Calls -/

inductive BootCall
  | powerOn (allowed : Bool)
  | shutdown (allowed : Bool)
  | transition (newState : VMBootState) (reason : String) (allowed : Bool)
  | forceTransition (newState : VMBootState) (reason : String)
  | reset
  | restoreCheckpointState (currentState previousState : VMBootState)

/-- What a call returns, and the machine it leaves. -/
def VMBootStateMachine.call (m : VMBootStateMachine) (clock : Readings) : BootCall → Bool × VMBootStateMachine
  | .powerOn allowed => m.powerOn allowed clock
  | .shutdown allowed => m.shutdown allowed clock
  | .transition newState reason allowed => m.transition newState reason allowed clock
  | .forceTransition newState reason => (true, m.forceTransition newState reason clock)
  | .reset => (true, m.reset clock)
  | .restoreCheckpointState currentState previousState =>
      (true, .restoreCheckpointState currentState previousState)

end Timed

end GuideXOS.Machine

namespace GuideXOS.Machine.Timed
open Lib.Tallies GuideXOS.Machine.Timed.VMBootStateMachine
open scoped UInt64.CommRing

/-! ## What the times should be -/

/-- A machine, the moment from which its times should count, and the moment at which it entered its current state. -/
structure Watched where
  machine : VMBootStateMachine
  epoch : UInt64
  entered : UInt64

/-- The calls that forget the times. -/
def BootCall.startsOver : BootCall → Bool
  | .reset | .restoreCheckpointState .. => true
  | _ => false

namespace Watched

def construct (now : UInt64) : Watched := ⟨.construct now, now, now⟩

variable (w : Watched)

/-- The new state was entered at the reading in between; a reset and a restore start a new epoch. -/
def step (event : BootCall × Readings) : Watched :=
  let result := w.machine.call event.2 event.1
  if event.1.startsOver then ⟨result.2, event.2.entered, event.2.entered⟩
  else ⟨result.2, w.epoch, if result.1 then event.2.entered else w.entered⟩

def run (events : List (BootCall × Readings)) : Watched := events.foldl step w

/-- The stay in the current state is charged for as long as it lasted. -/
def ChargesStay (clock : Readings) : Prop :=
  clock.tracked - w.machine.currentStateEntryTime = clock.entered - w.entered

end Watched

namespace VMBootStateMachine

variable (m : VMBootStateMachine)

/-- The successful records. -/
def successes : List VMBootStateTransition := m.transitionHistory.filter (·.successful)

/-- Records that lead here. -/
abbrev LeadTo (records : List VMBootStateTransition) (here : VMBootState) : Prop :=
  Trail VMBootStateTransition.fromState VMBootStateTransition.toState records here

/-- The successful records chain, and the last one ends in the current state. -/
def HistoryChained : Prop := LeadTo m.successes m.currentState

/-- Nothing but the history is different. -/
structure Untouched (m m' : VMBootStateMachine) : Prop where
  currentState : m'.currentState = m.currentState
  previousState : m'.previousState = m.previousState
  getTimeInState : m'.getTimeInState = m.getTimeInState
  getTimeInCurrentState : m'.getTimeInCurrentState = m.getTimeInCurrentState
  getTotalBootTime : m'.getTotalBootTime = m.getTotalBootTime

theorem Untouched.refl : Untouched m m := ⟨rfl, rfl, rfl, rfl, rfl⟩

end VMBootStateMachine

/-- The condition on a step: a state is left with its stay charged for as long as it lasted, and a reset finds the
    machine powered off or without a successful record. -/
def Watched.StepOk (w : Watched) (event : BootCall × Readings) : Prop :=
  match event.1 with
  | .restoreCheckpointState .. => True
  | .reset => w.machine.successes = [] ∨ w.machine.currentState = .POWERED_OFF
  | call => (w.machine.call event.2 call).1 = true → w.ChargesStay event.2

def Watched.StepsOk : Watched → List (BootCall × Readings) → Prop
  | _, [] => True
  | w, event :: events => w.StepOk event ∧ StepsOk (w.step event) events

/-! ## Records -/

section Records
variable {m : VMBootStateMachine} {trans : VMBootStateTransition}

/-- A new record, in a history that may forget its first. -/
theorem successes_recordTransition :
    (m.recordTransition trans).successes = (m.transitionHistory ++ [trans]).filter (·.successful) ∨
      (m.recordTransition trans).successes = (m.transitionHistory ++ [trans]).tail.filter (·.successful) := by
  unfold successes recordTransition
  dsimp only
  split
  · exact .inr rfl
  · exact .inl rfl

theorem leadTo_recordTransition {here : VMBootState}
    (h : LeadTo ((m.transitionHistory ++ [trans]).filter (·.successful)) here) :
    LeadTo (m.recordTransition trans).successes here := by
  rcases @successes_recordTransition m trans with hkept | hforgotten
  · rwa [hkept]
  · rw [hforgotten]
    exact h.filter_tail

/-- **A success** goes on from the current state. -/
theorem leadTo_success {here : VMBootState} (h : LeadTo m.successes here) (hfrom : trans.fromState = here)
    (hsuccessful : trans.successful = true) : LeadTo (m.recordTransition trans).successes trans.toState := by
  apply leadTo_recordTransition
  rw [List.filter_append, List.filter_singleton, hsuccessful]
  exact h.snoc hfrom

/-- **A failure** leaves no trace among the successes. -/
theorem chained_failure (h : m.HistoryChained) (hfailed : trans.successful = false) :
    (m.recordTransition trans).HistoryChained := by
  apply leadTo_recordTransition
  rw [List.filter_append, List.filter_singleton, hfailed]
  exact (List.append_nil m.successes).symm ▸ h

theorem untouched_recordTransition : Untouched m (m.recordTransition trans) := ⟨rfl, rfl, rfl, rfl, rfl⟩

end Records

/-! ## Times -/

section Times
variable {w : Watched}

/-- The times are charged up to the entry of the current state, and there is an account for it only if it was entered
    at the time that is kept. -/
structure Watched.Accounted (w : Watched) : Prop where
  total : w.machine.stateTimeAccumulator.total = w.entered - w.epoch
  fresh : (w.machine.stateTimeAccumulator w.machine.currentState).isSome →
    w.machine.currentStateEntryTime = w.entered

/-- The time in the current state is reported, or there is none yet. -/
def Watched.Counted (w : Watched) (now : UInt64) : Prop :=
  (w.machine.stateTimeAccumulator w.machine.currentState).isSome ∨ now = w.entered

/-- **At any moment** the reported times are the time since the epoch, exactly if the current state is counted. -/
theorem sum_getTimeInState_iff (h : w.Accounted) (now : UInt64) :
    ∑ state, w.machine.getTimeInState state now = now - w.epoch ↔ w.Counted now := by
  have hsum : ∑ state, w.machine.getTimeInState state now = w.machine.stateTimeAccumulator.total +
      if (w.machine.stateTimeAccumulator w.machine.currentState).isSome then
        w.machine.getTimeInCurrentState now else 0 := Tally.sum_shown
  rw [hsum, h.total, Watched.Counted]
  by_cases hsome : (w.machine.stateTimeAccumulator w.machine.currentState).isSome = true
  · simp only [hsome, if_true, true_or, iff_true, getTimeInCurrentState, h.fresh hsome]
    abel
  · simp only [hsome, if_false, false_or, add_zero, Bool.false_eq_true]
    rw [sub_left_inj]
    exact eq_comm

/-- **Leaving** a state keeps the times accounted for exactly if its stay is charged for as long as it lasted. -/
theorem accounted_leave_iff (h : w.Accounted) {machine : VMBootStateMachine} {clock : Readings}
    (htally : machine.stateTimeAccumulator =
      w.machine.stateTimeAccumulator.charge w.machine.currentState (w.machine.getTimeInCurrentState clock.tracked))
    (hentry : machine.currentStateEntryTime = clock.entered) :
    Watched.Accounted ⟨machine, w.epoch, clock.entered⟩ ↔ w.ChargesStay clock := by
  have htotal : machine.stateTimeAccumulator.total =
      w.entered - w.epoch + w.machine.getTimeInCurrentState clock.tracked := by
    rw [htally, Tally.total_charge, h.total]
  constructor
  · intro haccounted
    have heq := htotal.symm.trans haccounted.total
    rw [Watched.ChargesStay, ← getTimeInCurrentState]
    have hsplit : clock.entered - w.epoch = w.entered - w.epoch + (clock.entered - w.entered) := by abel
    exact add_left_cancel (heq.trans hsplit)
  · intro hcharges
    refine ⟨?_, fun _ => hentry⟩
    show machine.stateTimeAccumulator.total = clock.entered - w.epoch
    rw [htotal, getTimeInCurrentState, hcharges]
    abel

end Times

/-! ## Steps and runs -/

structure Watched.Consistent (w : Watched) : Prop where
  chained : w.machine.HistoryChained
  accounted : w.Accounted

theorem consistent_construct (now : UInt64) : (Watched.construct now).Consistent where
  chained := .nil
  accounted := by
    refine ⟨?_, nofun⟩
    exact Tally.total_empty.trans (sub_self now).symm

section Steps
variable {w : Watched} {clock : Readings} {allowed : Bool} {trans : VMBootStateTransition}

/-- A failed attempt is recorded, and that is all. -/
theorem consistent_failure (h : w.Consistent) (hfailed : trans.successful = false) :
    Watched.Consistent ⟨w.machine.recordTransition trans, w.epoch, w.entered⟩ :=
  ⟨chained_failure h.chained hfailed, ⟨h.accounted.total, h.accounted.fresh⟩⟩

/-- An attempt that succeeds leaves the current state and is recorded. -/
theorem consistent_success (h : w.Consistent) (hcharges : w.ChargesStay clock) {machine : VMBootStateMachine}
    (hhistory : machine.transitionHistory = w.machine.transitionHistory) (htally : machine.stateTimeAccumulator =
      w.machine.stateTimeAccumulator.charge w.machine.currentState (w.machine.getTimeInCurrentState clock.tracked))
    (hentry : machine.currentStateEntryTime = clock.entered) (hfrom : trans.fromState = w.machine.currentState)
    (hto : trans.toState = machine.currentState) (hsuccessful : trans.successful = true) :
    Watched.Consistent ⟨machine.recordTransition trans, w.epoch, clock.entered⟩ := by
  have hleft : Watched.Accounted ⟨machine, w.epoch, clock.entered⟩ :=
    (accounted_leave_iff h.accounted htally hentry).mpr hcharges
  have hsuccesses : machine.successes = w.machine.successes := congrArg (List.filter _) hhistory
  refine ⟨?_, ⟨hleft.total, hleft.fresh⟩⟩
  show LeadTo _ machine.currentState
  rw [← hto]
  exact leadTo_success (hsuccesses ▸ h.chained) hfrom hsuccessful

theorem consistent_transition (h : w.Consistent) {newState : VMBootState} {reason : String}
    (hok : (w.machine.transition newState reason allowed clock).1 = true → w.ChargesStay clock) :
    Watched.Consistent ⟨(w.machine.transition newState reason allowed clock).2, w.epoch,
      if (w.machine.transition newState reason allowed clock).1 then clock.entered else w.entered⟩ := by
  unfold transition at hok ⊢
  split at hok
  case isTrue hcan =>
    rw [if_pos hcan]
    exact consistent_success h (hok rfl) rfl rfl rfl rfl rfl rfl
  case isFalse hcan =>
    rw [if_neg hcan]
    exact consistent_failure h rfl

theorem consistent_powerOn (h : w.Consistent)
    (hok : (w.machine.powerOn allowed clock).1 = true → w.ChargesStay clock) :
    Watched.Consistent ⟨(w.machine.powerOn allowed clock).2, w.epoch,
      if (w.machine.powerOn allowed clock).1 then clock.entered else w.entered⟩ := by
  unfold powerOn at hok ⊢
  split at hok
  case isTrue hon =>
    rw [if_pos hon]
    exact h
  case isFalse hoff =>
    rw [if_neg hoff]
    exact consistent_transition h hok

theorem consistent_shutdown (h : w.Consistent)
    (hok : (w.machine.shutdown allowed clock).1 = true → w.ChargesStay clock) :
    Watched.Consistent ⟨(w.machine.shutdown allowed clock).2, w.epoch,
      if (w.machine.shutdown allowed clock).1 then clock.entered else w.entered⟩ := by
  unfold shutdown at hok ⊢
  split at hok
  case isTrue hdown =>
    rw [if_pos hdown]
    exact h
  case isFalse hup =>
    rw [if_neg hup]
    exact consistent_transition h hok

/-- **A reset** keeps the history, and so its trail only if that is empty or leads to the state it resets to. -/
theorem chained_reset_iff (h : w.machine.HistoryChained) :
    (w.machine.reset clock).HistoryChained ↔ w.machine.successes = [] ∨ w.machine.currentState = .POWERED_OFF :=
  Trail.jump_iff h

/-- **A step** keeps the books. -/
theorem consistent_step (h : w.Consistent) {event : BootCall × Readings} (hok : w.StepOk event) :
    (w.step event).Consistent := by
  obtain ⟨call, clock⟩ := event
  cases call with
  | powerOn allowed => exact consistent_powerOn h hok
  | shutdown allowed => exact consistent_shutdown h hok
  | transition newState reason allowed => exact consistent_transition h hok
  | forceTransition newState reason => exact consistent_success h (hok rfl) rfl rfl rfl rfl rfl rfl
  | reset =>
      refine ⟨(chained_reset_iff h.chained).mpr hok, ?_, nofun⟩
      exact Tally.total_empty.trans (sub_self clock.entered).symm
  | restoreCheckpointState currentState previousState =>
      refine ⟨.nil, ?_, nofun⟩
      exact Tally.total_empty.trans (sub_self clock.entered).symm

end Steps

/-- **A run** keeps them. -/
theorem consistent_run {w : Watched} (h : w.Consistent) {events : List (BootCall × Readings)}
    (hok : w.StepsOk events) : (w.run events).Consistent := by
  induction events generalizing w with
  | nil => exact h
  | cons event events ih => exact ih (consistent_step h hok.1) hok.2

/-! ## Rejected calls -/

variable {m : VMBootStateMachine}

theorem untouched_transition {newState : VMBootState} {reason : String} {allowed : Bool} {clock : Readings}
    (h : (m.transition newState reason allowed clock).1 = false) :
    Untouched m (m.transition newState reason allowed clock).2 := by
  unfold transition at h ⊢
  split at h
  case isTrue => cases h
  case isFalse hcan =>
    rw [if_neg hcan]
    exact untouched_recordTransition

/-- **A rejected call** changes no state and no time. -/
theorem untouched_of_rejected {clock : Readings} {call : BootCall} (h : (m.call clock call).1 = false) :
    Untouched m (m.call clock call).2 := by
  cases call with
  | powerOn allowed =>
      unfold VMBootStateMachine.call powerOn at h ⊢
      dsimp only at h ⊢
      split at h
      case isTrue hon =>
        rw [if_pos hon]
        exact .refl m
      case isFalse hoff =>
        rw [if_neg hoff]
        exact untouched_transition h
  | shutdown allowed =>
      unfold VMBootStateMachine.call shutdown at h ⊢
      dsimp only at h ⊢
      split at h
      case isTrue hdown =>
        rw [if_pos hdown]
        exact .refl m
      case isFalse hup =>
        rw [if_neg hup]
        exact untouched_transition h
  | transition newState reason allowed => exact untouched_transition h
  | _ => cases h

/-! ## The books of a run -/

/-- What is asked of the history and of the times, at a moment. -/
structure Watched.Exact (w : Watched) (now : UInt64) : Prop where
  chained : w.machine.HistoryChained
  rejected : ∀ clock call, (w.machine.call clock call).1 = false → Untouched w.machine (w.machine.call clock call).2
  times : ∑ state, w.machine.getTimeInState state now = now - w.epoch

/-- **Boot states and times.** In a run whose resets and transitions are booked, history and times are exact at every
    moment that is counted. -/
theorem bootBooks_exact (start : UInt64) (events : List (BootCall × Readings)) (now : UInt64)
    (hok : (Watched.construct start).StepsOk events) :
    ((Watched.construct start).run events).Exact now ↔ ((Watched.construct start).run events).Counted now := by
  have hconsistent := consistent_run (consistent_construct start) hok
  constructor
  · intro hexact
    exact (sum_getTimeInState_iff hconsistent.accounted now).mp hexact.times
  · intro hcounted
    refine ⟨hconsistent.chained, fun _ _ h => untouched_of_rejected h, ?_⟩
    exact (sum_getTimeInState_iff hconsistent.accounted now).mpr hcounted

/-- Powered on, and back in a state that was left before. -/
def backAgain : List (BootCall × Readings) :=
  [(.powerOn true, ⟨7, 7, 7⟩), (.transition .FIRMWARE_INIT "" true, ⟨9, 9, 9⟩),
    (.forceTransition .POWER_ON "", ⟨12, 12, 12⟩)]

theorem bootBooks_exact_backAgain : ((Watched.construct 5).run backAgain).Exact 20 :=
  (bootBooks_exact 5 backAgain 20 ⟨fun _ => rfl, fun _ => rfl, fun _ => rfl, trivial⟩).mpr (.inl rfl)

/-- Five milliseconds after its construction a machine reports no time at all. -/
theorem bootBooks_fail : ¬ ∀ start events now, ((Watched.construct start).run events).Exact now := by
  intro h
  have htimes := (h 0 [] 5).times
  rcases (sum_getTimeInState_iff (consistent_construct 0).accounted 5).mp htimes with hsome | hnow
  · cases hsome
  · exact absurd hnow (by decide)

/-! ## The course of a boot -/

/-- From off to the end of a shutdown. -/
def bootCourse : List VMBootState := VMBootState.all.take 13

/-- The calls that put the machine in a state without asking the table. -/
def BootCall.puts : BootCall → Bool
  | .forceTransition .. | .reset | .restoreCheckpointState .. => true
  | _ => false

/-- A machine, and the states it was in since it was last off or was put somewhere. -/
structure Travelled where
  machine : VMBootStateMachine
  states : List VMBootState

def Travelled.step (t : Travelled) (event : BootCall × Readings) : Travelled :=
  let (accepted, machine) := t.machine.call event.2 event.1
  ⟨machine, if event.1.puts ∨ machine.currentState = .POWERED_OFF then [machine.currentState]
    else if accepted then t.states ++ [machine.currentState] else t.states⟩

/-- In a state of the course, it was in the states before it one after the other. -/
def Travelled.OnCourse (t : Travelled) : Prop :=
  t.machine.currentState ∈ bootCourse →
    t.states ≠ [] ∧ t.states <:+ bootCourse.take (bootCourse.idxOf t.machine.currentState + 1)

theorem singleton_suffix : ∀ s ∈ bootCourse, [s] <:+ bootCourse.take (bootCourse.idxOf s + 1) := by decide

/-- A state of the course is entered from the one before it. -/
theorem take_bootCourse {s s' : VMBootState} (h : s' ∈ s.validTransitions) (h' : s' ∈ bootCourse)
    (hne : s' ≠ .POWERED_OFF) : s ∈ bootCourse ∧
      bootCourse.take (bootCourse.idxOf s' + 1) = bootCourse.take (bootCourse.idxOf s + 1) ++ [s'] := by
  revert s'
  cases s <;> decide

/-- An accepted call that asks the table is a transition. -/
theorem call_eq_transition {call : BootCall} {clock : Readings} (hputs : ¬ call.puts)
    (h : (m.call clock call).1 = true) :
    ∃ newState reason allowed, m.call clock call = m.transition newState reason allowed clock := by
  cases call with
  | powerOn allowed =>
      refine ⟨_, _, allowed, if_neg fun hon => ?_⟩
      rw [VMBootStateMachine.call, powerOn, if_pos hon] at h
      cases h
  | shutdown allowed =>
      refine ⟨_, _, allowed, if_neg fun hdown => ?_⟩
      rw [VMBootStateMachine.call, shutdown, if_pos hdown] at h
      cases h
  | transition newState reason allowed => exact ⟨_, _, _, rfl⟩
  | _ => exact absurd rfl hputs

theorem mem_validTransitions_of_call {call : BootCall} {clock : Readings} (hputs : ¬ call.puts)
    (h : (m.call clock call).1 = true) : (m.call clock call).2.currentState ∈ m.currentState.validTransitions := by
  obtain ⟨newState, reason, allowed, hcall⟩ := call_eq_transition hputs h
  rw [hcall, transition] at h ⊢
  split at h
  case isFalse => cases h
  case isTrue hcan =>
    rw [if_pos hcan]
    exact List.contains_iff_mem.mp (Bool.and_eq_true _ _ ▸ hcan).1

theorem Travelled.onCourse_step {t : Travelled} (h : t.OnCourse) (event : BootCall × Readings) :
    (t.step event).OnCourse := by
  intro hmem
  unfold step at hmem ⊢
  dsimp only at hmem ⊢
  split
  · exact ⟨nofun, singleton_suffix _ hmem⟩
  next hkeeps =>
  obtain ⟨hputs, hon⟩ := not_or.mp hkeeps
  split
  next haccepted =>
    obtain ⟨hbefore, hcourse⟩ := take_bootCourse (mem_validTransitions_of_call hputs haccepted) hmem hon
    rw [hcourse]
    exact ⟨by simp, (List.suffix_append_inj_of_length_eq rfl).mpr ⟨(h hbefore).2, rfl⟩⟩
  next hrejected =>
    have hsame := (untouched_of_rejected (Bool.eq_false_iff.mpr hrejected)).currentState
    rw [hsame] at hmem ⊢
    exact h hmem

/-- **A boot skips nothing**: what leads to a state of the course is the course, from where the machine was off or put. -/
theorem onCourse_run (start : UInt64) (events : List (BootCall × Readings)) :
    (events.foldl Travelled.step ⟨.construct start, [.POWERED_OFF]⟩).OnCourse := by
  have hrun : ∀ t : Travelled, t.OnCourse → (events.foldl Travelled.step t).OnCourse := by
    induction events with
    | nil => exact fun _ h => h
    | cons event events ih => exact fun t h => ih _ (Travelled.onCourse_step h event)
  exact hrun _ fun hmem => ⟨nofun, singleton_suffix .POWERED_OFF hmem⟩

end GuideXOS.Machine.Timed
