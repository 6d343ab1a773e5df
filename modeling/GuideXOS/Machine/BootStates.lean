import Mathlib.Data.List.Basic

/-!
# `BootStates` — the boot state machine

A table says which state may follow which; conditions registered by the host may refuse more. Every attempt is written
into a bounded history.

* What the host's conditions answer is part of the configuration, and a function of the two states.
* Times and callbacks are left out.
-/

namespace GuideXOS.Machine

inductive VMBootState
  | POWERED_OFF | POWER_ON | FIRMWARE_INIT | BOOTLOADER_EXEC | KERNEL_LOAD | KERNEL_ENTRY | KERNEL_INIT | INIT_PROCESS
  | USERSPACE_RUNNING | SHUTDOWN_INIT | STOPPING_SERVICES | KERNEL_SHUTDOWN | FIRMWARE_SHUTDOWN | POWER_OFF
  | BOOT_FAILED | KERNEL_PANIC | EMERGENCY_HALT
  deriving DecidableEq

namespace VMBootState

/-- **`initializeTransitionGraph`.** -/
def validTransitions : VMBootState → List VMBootState
  | POWERED_OFF => [POWER_ON]
  | POWER_ON => [FIRMWARE_INIT, BOOT_FAILED, EMERGENCY_HALT]
  | FIRMWARE_INIT => [BOOTLOADER_EXEC, BOOT_FAILED, EMERGENCY_HALT]
  | BOOTLOADER_EXEC => [KERNEL_LOAD, BOOT_FAILED, EMERGENCY_HALT]
  | KERNEL_LOAD => [KERNEL_ENTRY, BOOT_FAILED, EMERGENCY_HALT]
  | KERNEL_ENTRY => [KERNEL_INIT, KERNEL_PANIC, EMERGENCY_HALT]
  | KERNEL_INIT => [INIT_PROCESS, KERNEL_PANIC, EMERGENCY_HALT]
  | INIT_PROCESS => [USERSPACE_RUNNING, KERNEL_PANIC, EMERGENCY_HALT]
  | USERSPACE_RUNNING => [SHUTDOWN_INIT, KERNEL_PANIC, EMERGENCY_HALT]
  | SHUTDOWN_INIT => [STOPPING_SERVICES, EMERGENCY_HALT]
  | STOPPING_SERVICES => [KERNEL_SHUTDOWN, EMERGENCY_HALT]
  | KERNEL_SHUTDOWN => [FIRMWARE_SHUTDOWN, EMERGENCY_HALT]
  | FIRMWARE_SHUTDOWN => [POWER_OFF]
  | POWER_OFF => [POWERED_OFF]
  | BOOT_FAILED => [POWER_OFF, POWERED_OFF]
  | KERNEL_PANIC => [EMERGENCY_HALT, POWER_OFF]
  | EMERGENCY_HALT => [POWERED_OFF]

end VMBootState

structure VMBootStateTransition where
  fromState : VMBootState
  toState : VMBootState
  reason : String
  successful : Bool
  deriving DecidableEq

structure VMBootStateMachine where
  /-- What the registered conditions answer, for a transition of the table. -/
  conditions : VMBootState → VMBootState → Bool := fun _ _ => true
  currentState : VMBootState := .POWERED_OFF
  previousState : VMBootState := .POWERED_OFF
  transitionHistory : List VMBootStateTransition := []
  maxHistorySize : Nat := 1000

namespace VMBootStateMachine

variable (m : VMBootStateMachine)

/-- **`canTransition`.** -/
def canTransition (newState : VMBootState) : Bool :=
  m.currentState.validTransitions.contains newState && m.conditions m.currentState newState

/-- **`recordTransition`.** -/
def recordTransition (t : VMBootStateTransition) : VMBootStateMachine :=
  let history := m.transitionHistory ++ [t]
  { m with transitionHistory := if history.length > m.maxHistorySize then history.drop 1 else history }

/-- **`transition`.** -/
def transition (newState : VMBootState) (reason : String) : Bool × VMBootStateMachine :=
  if m.canTransition newState then
    (true, { m.recordTransition ⟨m.currentState, newState, reason, true⟩ with
      previousState := m.currentState
      currentState := newState })
  else (false, m.recordTransition ⟨m.currentState, newState, reason, false⟩)

/-- **`powerOn`.** -/
def powerOn : Bool × VMBootStateMachine :=
  if m.currentState ≠ .POWERED_OFF then (false, m) else m.transition .POWER_ON "Power button pressed"

/-- **`reset`** keeps the history. -/
def reset : VMBootStateMachine :=
  { m with previousState := m.currentState, currentState := .POWERED_OFF }

/-- The host's conditions are there to stay. -/
@[simp] theorem conditions_transition (newState : VMBootState) (reason : String) :
    (m.transition newState reason).2.conditions = m.conditions := by
  unfold transition recordTransition
  split <;> rfl

@[simp] theorem conditions_powerOn : m.powerOn.2.conditions = m.conditions := by
  unfold powerOn
  split
  · rfl
  · exact conditions_transition ..

end VMBootStateMachine

end GuideXOS.Machine
