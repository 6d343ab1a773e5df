import GuideXOS.Machine.Breakpoints

/-!
# `Running` — a run is its steps

`run` counts by what the steps add to the counter of the machine. A step that goes on adds one, so the limit is a number
of steps.
-/

namespace GuideXOS.Machine.VirtualMachine
variable {I : Type} {engine : Engine I} {vm : VirtualMachine I}

/-- A step that goes on has counted one cycle, and the machine runs. -/
def OneCycleOn (vm : VirtualMachine I) (r : Bool × VirtualMachine I) : Prop :=
  r.1 = true → r.2.state = .RUNNING ∧ r.2.cyclesExecuted = vm.cyclesExecuted + 1

theorem oneCycleOn_step (engine : Engine I) (vm : VirtualMachine I) : vm.OneCycleOn (vm.step engine) := by
  have hwake : vm.wake.wake.cyclesExecuted = vm.cyclesExecuted := by rw [wake_eq, wake_eq]
  unfold step
  split
  · exact nofun
  dsimp only
  split
  · exact nofun
  split
  case isFalse => exact nofun
  unfold stepCPU
  split
  · exact nofun
  split
  · exact nofun
  unfold stepContext
  dsimp only
  generalize hlooking : captureSnapshotIfBoundary _ = looking
  have hcycles : looking.cyclesExecuted = vm.cyclesExecuted := by
    obtain ⟨history, hhistory⟩ := captureSnapshotIfBoundary_eq _
    rw [← hlooking, hhistory]
    exact hwake
  split
  · exact nofun
  · exact nofun
  · intro hgoes
    rw [← hcycles]
    generalize hready : (if looking.bypassInstructionBreakpoint _ then _ else looking) = ready at hgoes ⊢
    have hsame : looking.cyclesExecuted = ready.cyclesExecuted := by
      rw [← hready]
      split <;> rfl
    rcases execute_cases ready _ _ with ⟨hends, -⟩ | ⟨hcounted, hruns⟩
    · rw [hends] at hgoes
      cases hgoes
    · exact ⟨hruns hgoes, hsame ▸ hcounted⟩

/-- The machine `n` steps after it was told to run. -/
def stepped (engine : Engine I) (vm : VirtualMachine I) : Nat → VirtualMachine I
  | 0 => { vm with state := .RUNNING }
  | n + 1 => (stepped engine vm n |>.step engine).2

/-- The first `n` steps go on. -/
def GoesOn (engine : Engine I) (vm : VirtualMachine I) (n : Nat) : Prop :=
  ∀ k < n, ((stepped engine vm k).step engine).1 = true

theorem not_reached {n : Nat} {maxCycles : UInt64} (h : maxCycles = 0 ∨ n < maxCycles.toNat) :
    ¬ (maxCycles > 0 ∧ UInt64.ofNat n ≥ maxCycles) := by
  rintro ⟨hpos, hreached⟩
  rcases h with rfl | hlt
  · cases hpos
  · have hn : (UInt64.ofNat n).toNat = n := UInt64.toNat_ofNat_of_lt' (hlt.trans maxCycles.toNat_lt)
    rw [ge_iff_le, UInt64.le_iff_toNat_le, hn] at hreached
    omega

/-- As long as the steps go on the loop takes them one by one, and counts them. -/
theorem runLoop_goesOn {n : Nat} (h : vm.GoesOn engine n) : (vm.stepped engine n).state = .RUNNING ∧
    ∀ maxCycles : UInt64, (maxCycles = 0 ∨ n ≤ maxCycles.toNat) → ∀ fuel,
      ({ vm with state := .RUNNING } : VirtualMachine I).runLoop engine maxCycles (n + fuel) 0 =
        (vm.stepped engine n).runLoop engine maxCycles fuel (UInt64.ofNat n) := by
  induction n with
  | zero =>
      refine ⟨rfl, fun maxCycles _ fuel => ?_⟩
      rw [Nat.zero_add]
      rfl
  | succ n ih =>
      obtain ⟨hrunning, hloop⟩ := ih fun k hk => h k (Nat.lt_succ_of_lt hk)
      have hgoes := h n (Nat.lt_succ_self n)
      obtain ⟨hstate, hcycles⟩ := oneCycleOn_step engine (vm.stepped engine n) hgoes
      refine ⟨hstate, fun maxCycles hmax fuel => ?_⟩
      rw [Nat.add_right_comm, Nat.add_assoc, hloop maxCycles (hmax.imp id Nat.le_of_succ_le)]
      conv_lhs => unfold runLoop
      rw [if_neg (not_not.mpr hrunning), if_neg (not_reached hmax)]
      dsimp only
      rw [if_pos hgoes, hcycles, UInt64.add_comm _ 1, UInt64.add_sub_cancel, ← UInt64.ofNat_one, ← UInt64.ofNat_add]
      rfl

/-- **A run** takes as many steps as the limit says, unless one does not go on: that is the last one. Without a limit it
    need not end. -/
theorem run_is_steps (hready : ¬ (vm.state = .CREATED ∨ vm.state = .ERROR)) (maxCycles : UInt64) :
    (∀ n fuel, n < fuel → vm.GoesOn engine n → 0 < n → n = maxCycles.toNat →
      vm.run engine fuel maxCycles = some (maxCycles, { vm.stepped engine n with state := .STOPPED })) ∧
    (∀ n fuel, n < fuel → vm.GoesOn engine n → ((vm.stepped engine n).step engine).1 = false →
      maxCycles = 0 ∨ n < maxCycles.toNat → vm.run engine fuel maxCycles =
        some (UInt64.ofNat n + ((vm.stepped engine (n + 1)).cyclesExecuted - (vm.stepped engine n).cyclesExecuted),
          vm.stepped engine (n + 1))) ∧
    ((∀ n, vm.GoesOn engine n) → maxCycles = 0 → ∀ fuel, vm.run engine fuel maxCycles = none) := by
  have hrun : ∀ fuel, vm.run engine fuel maxCycles =
      ({ vm with state := .RUNNING } : VirtualMachine I).runLoop engine maxCycles fuel 0 := fun _ => if_neg hready
  refine ⟨fun n fuel hfuel hgoes hpos hn => ?_, fun n fuel hfuel hgoes hends hmax => ?_, fun hgoes hzero fuel => ?_⟩
  · obtain ⟨hrunning, hloop⟩ := runLoop_goesOn hgoes
    obtain ⟨k, rfl⟩ := Nat.exists_eq_add_of_lt hfuel
    rw [hrun, Nat.add_assoc, hloop maxCycles (.inr hn.le), hn, UInt64.ofNat_toNat]
    unfold runLoop
    rw [if_neg (not_not.mpr (hn ▸ hrunning)), if_pos ⟨UInt64.lt_iff_toNat_lt.mpr (hn ▸ hpos), UInt64.le_refl _⟩]
  · obtain ⟨hrunning, hloop⟩ := runLoop_goesOn hgoes
    obtain ⟨k, rfl⟩ := Nat.exists_eq_add_of_lt hfuel
    rw [hrun, Nat.add_assoc, hloop maxCycles (hmax.imp id Nat.le_of_lt)]
    unfold runLoop
    rw [if_neg (not_not.mpr hrunning), if_neg (not_reached hmax)]
    dsimp only
    rw [hends]
    rfl
  · obtain ⟨-, hloop⟩ := runLoop_goesOn (hgoes fuel)
    rw [hrun, ← Nat.add_zero fuel, hloop maxCycles (.inl hzero)]
    rfl

theorem run_is_steps_nops : (nopMachine 1 false).run nopEngine 3 2 =
    some (2, { (nopMachine 1 false).stepped nopEngine 2 with state := .STOPPED }) :=
  (run_is_steps (by decide +kernel) 2).1 2 3 (by decide) (by unfold GoesOn; decide +kernel) (by decide) (by decide)

end GuideXOS.Machine.VirtualMachine
