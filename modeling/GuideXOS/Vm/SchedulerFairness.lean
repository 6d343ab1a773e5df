import GuideXOS.Vm.Scheduler

/-!
# `SchedulerFairness` — what the round robin guarantees, and when

A selection is right as soon as the cursor is that of a CPU, or the fresh `-1`: `selectNextCPU_iff` is the exact
condition. Nothing in the scheduler checks an index that is reported to it, so the condition is one on the reports
(`Op.Fits`).

* Fairness needs the cursor to move: a quantum of no bundles, or one preempted before its first instruction, expires
  with the cursor where it was, and the same CPU is selected again and again (`selectNextCPU_starves`).
* Where every turn executes something, the CPUs between the cursor and a waiting one are the measure (`distance`).
-/

namespace GuideXOS.Vm.SimpleCPUScheduler

open Lib.Runs

/-- What the index a selection returns must be. -/
def Selection (cpus : CPUList) (i : Int) : Prop :=
  (∃ (k : Nat) (ctx : Option ScheduledCPU), i = k ∧ cpus[k]? = some ctx ∧ isRunnable ctx = true) ∨
    (i = -1 ∧ ∀ ctx ∈ cpus, isRunnable ctx = false)

/-! ## One selection -/

/-- The loop returns the first runnable CPU, counted from where it began, or `-1`. -/
theorem findFrom_spec (cpus : CPUList) (i : Nat) :
    (findFrom cpus i = -1 ∧ ∀ ctx ∈ cpus, isRunnable ctx = false) ∨
      ∃ k ctx, findFrom cpus i = ((i + k : Nat) : Int) ∧ cpus[k]? = some ctx ∧ isRunnable ctx = true ∧
        ∀ j < k, ∀ ctx', cpus[j]? = some ctx' → isRunnable ctx' = false := by
  induction cpus generalizing i with
  | nil => exact .inl ⟨rfl, by simp⟩
  | cons ctx rest ih =>
      by_cases hrun : isRunnable ctx = true
      · refine .inr ⟨0, ctx, by simp [findFrom, hrun], rfl, hrun, ?_⟩
        intro j hj
        exact absurd hj (Nat.not_lt_zero j)
      · have hstep : findFrom (ctx :: rest) i = findFrom rest (i + 1) := by simp [findFrom, hrun]
        have hfalse : isRunnable ctx = false := by simpa using hrun
        rw [hstep]
        rcases ih (i + 1) with ⟨hnone, hall⟩ | ⟨k, ctx', hk, hget, hrun', hbefore⟩
        · exact .inl ⟨hnone, by simpa [hfalse] using hall⟩
        · refine .inr ⟨k + 1, ctx', by rw [hk]; congr 1; omega, by simpa using hget, hrun', ?_⟩
          intro j hj ctx'' hget''
          cases j with
          | zero =>
              obtain rfl : ctx = ctx'' := by simpa using hget''
              exact hfalse
          | succ j => exact hbefore j (by omega) ctx'' (by simpa using hget'')

/-- A search from `start` finds the first runnable CPU that is not in front of it. -/
theorem findNextRunnableCPU_spec (cpus : CPUList) (start : Nat) :
    (findNextRunnableCPU cpus start = some (-1) ∧
        ∀ j ctx, start ≤ j → cpus[j]? = some ctx → isRunnable ctx = false) ∨
      ∃ (k : Nat) (ctx : Option ScheduledCPU), findNextRunnableCPU cpus start = some (k : Int) ∧ start ≤ k ∧
        cpus[k]? = some ctx ∧ isRunnable ctx = true ∧
        ∀ j ctx', start ≤ j → j < k → cpus[j]? = some ctx' → isRunnable ctx' = false := by
  have hfind : findNextRunnableCPU cpus start = some (findFrom (cpus.drop start) start) := by
    simp [findNextRunnableCPU]
  have hdrop : ∀ j, start ≤ j → (cpus.drop start)[j - start]? = cpus[j]? := by
    intro j hj
    rw [List.getElem?_drop, Nat.add_sub_cancel' hj]
  rw [hfind]
  rcases findFrom_spec (cpus.drop start) start with ⟨hnone, hall⟩ | ⟨k, ctx, hk, hget, hrun, hbefore⟩
  · refine .inl ⟨by rw [hnone], ?_⟩
    intro j ctx hj hget
    rw [← hdrop j hj] at hget
    exact hall ctx (List.mem_of_getElem? hget)
  · refine .inr ⟨start + k, ctx, by rw [hk], Nat.le_add_right _ _, by simpa using hget, hrun, ?_⟩
    intro j ctx' hj hlt hget'
    exact hbefore (j - start) (by omega) ctx' (by rw [hdrop j hj]; exact hget')

/-- The start index is one of the list, or the list is read in front of its first entry. -/
def CursorFits (s : SimpleCPUScheduler) (cpus : CPUList) : Prop :=
  cpus.length ≤ 1 ∨ (s.lastCPUIndex < INT_MAX ∧ 0 ≤ (s.lastCPUIndex + 1).tmod cpus.length)

variable {s : SimpleCPUScheduler} {cpus : CPUList} {ctx : ScheduledCPU} (answers : Nat → Answer) {cpuIndex : Int}
  {t : Turn}

/-- A selection from two CPUs or more: the first runnable one from the start index on, or from the beginning. -/
theorem selectNextCPU_of_start {start : Nat} (hlen : 1 < cpus.length)
    (hstart : s.startIndex cpus = some (start : Int)) :
    (s.selectNextCPU cpus = some (-1) ∧ ∀ ctx ∈ cpus, isRunnable ctx = false) ∨
      ∃ (k : Nat) (ctx : Option ScheduledCPU), s.selectNextCPU cpus = some (k : Int) ∧ cpus[k]? = some ctx ∧
        isRunnable ctx = true ∧
        ((start ≤ k ∧ ∀ j ctx', start ≤ j → j < k → cpus[j]? = some ctx' → isRunnable ctx' = false) ∨
          (k < start ∧ (∀ j ctx', start ≤ j → cpus[j]? = some ctx' → isRunnable ctx' = false) ∧
            ∀ j ctx', j < k → cpus[j]? = some ctx' → isRunnable ctx' = false)) := by
  have hselect : s.selectNextCPU cpus = (do
      let nextCPU ← findNextRunnableCPU cpus start
      if nextCPU ≠ -1 then some nextCPU
      else if (start : Int) ≠ 0 then findNextRunnableCPU cpus 0
      else some nextCPU) := by
    match cpus, hlen with
    | a :: b :: rest, _ => simp [selectNextCPU, hstart]
  rw [hselect]
  rcases findNextRunnableCPU_spec cpus start with ⟨hnone, hbehind⟩ | ⟨k, ctx, hk, hle, hget, hrun, hbefore⟩
  · -- nothing runnable behind the cursor: the second search looks at the whole list
    rw [hnone]
    have hzero := findNextRunnableCPU_spec cpus 0
    simp only [Nat.cast_zero, Nat.zero_le, true_and, forall_const] at hzero
    by_cases h0 : start = 0
    · refine .inl ⟨by simp [h0], ?_⟩
      intro ctx hmem
      obtain ⟨j, hj⟩ := List.getElem?_of_mem hmem
      exact hbehind j ctx (by omega) hj
    · have h0' : (start : Int) ≠ 0 := by omega
      simp only [Option.bind_eq_bind, Option.bind_some, ne_eq, not_true_eq_false, if_false, h0', not_false_eq_true,
        if_true]
      rcases hzero with ⟨hnone', hall⟩ | ⟨k, ctx, hk, hget, hrun, hbefore⟩
      · refine .inl ⟨hnone', ?_⟩
        intro ctx hmem
        obtain ⟨j, hj⟩ := List.getElem?_of_mem hmem
        exact hall j ctx hj
      · have hlt : k < start := by
          by_contra hge
          exact absurd hrun (by simp [hbehind k ctx (by omega) hget])
        exact .inr ⟨k, ctx, hk, hget, hrun, .inr ⟨hlt, hbehind, hbefore⟩⟩
  · refine .inr ⟨k, ctx, ?_, hget, hrun, .inl ⟨hle, hbefore⟩⟩
    have hne : (k : Int) ≠ -1 := by omega
    simp [hk, hne]

/-- **Exactly when a selection is right**: it returns a runnable CPU of the list if there is one, and `-1` otherwise. -/
theorem selectNextCPU_iff (s : SimpleCPUScheduler) (cpus : CPUList) :
    (∃ i, s.selectNextCPU cpus = some i ∧ Selection cpus i) ↔ s.CursorFits cpus := by
  match cpus with
  | [] => simp [selectNextCPU, Selection, CursorFits]
  | [ctx] =>
      have hfits : s.CursorFits [ctx] := .inl (by simp)
      refine iff_of_true ?_ hfits
      cases hrun : isRunnable ctx with
      | true => exact ⟨0, by simp [selectNextCPU, hrun], .inl ⟨0, ctx, rfl, rfl, hrun⟩⟩
      | false => exact ⟨-1, by simp [selectNextCPU, hrun], .inr ⟨rfl, by simpa using hrun⟩⟩
  | a :: b :: rest =>
      have hlen : 1 < (a :: b :: rest).length := by simp
      generalize hcpus : a :: b :: rest = cpus at hlen
      constructor
      · rintro ⟨i, hselect, -⟩
        right
        subst hcpus
        by_cases hmax : s.lastCPUIndex < INT_MAX
        · refine ⟨hmax, ?_⟩
          by_contra hneg
          have hlt : (s.lastCPUIndex + 1).tmod ((a :: b :: rest).length : Int) < 0 := by omega
          simp [selectNextCPU, startIndex, hmax, findNextRunnableCPU, -List.length_cons, hlt] at hselect
        · simp [selectNextCPU, startIndex, hmax] at hselect
      · intro hfits
        obtain ⟨hmax, hpos⟩ := hfits.resolve_left (by omega)
        have hstart : s.startIndex cpus = some (((s.lastCPUIndex + 1).tmod cpus.length).toNat : Int) := by
          rw [startIndex, if_pos hmax, Int.toNat_of_nonneg hpos]
        rcases selectNextCPU_of_start hlen hstart with ⟨hnone, hall⟩ | ⟨k, ctx, hk, hget, hrun, -⟩
        · exact ⟨-1, hnone, .inr ⟨rfl, hall⟩⟩
        · exact ⟨k, hk, .inl ⟨k, ctx, rfl, hget, hrun⟩⟩

/-- A cursor that is `-1` or the index of a CPU is right for every list. -/
theorem cursorFits_of_bounds (hlow : -1 ≤ s.lastCPUIndex) (hhigh : s.lastCPUIndex < INT_MAX) (cpus : CPUList) :
    s.CursorFits cpus :=
  .inr ⟨hhigh, Int.tmod_nonneg _ (by omega)⟩

/-! ## Where the calls leave the cursor -/

theorem executeSingleInstruction_lastCPUIndex (s : SimpleCPUScheduler) (ctx : ScheduledCPU) (cpuIndex : Int)
    (answer : Answer) :
    (s.executeSingleInstruction ctx cpuIndex answer).1.lastCPUIndex =
      if ctx.hasCpu then cpuIndex else s.lastCPUIndex := by
  unfold executeSingleInstruction
  split <;> rfl

@[simp] theorem countBundle_lastCPUIndex (s : SimpleCPUScheduler) (cpuIndex : Int) :
    (s.countBundle cpuIndex).lastCPUIndex = s.lastCPUIndex := rfl

/-- The rest of a bundle leaves a cursor that is already on the CPU where it is. -/
theorem stepInstructions_lastCPUIndex (hs : s.lastCPUIndex = cpuIndex) (k left : Nat) :
    (stepInstructions ctx cpuIndex answers s k left).1.lastCPUIndex = cpuIndex := by
  induction left generalizing s k with
  | zero => exact hs
  | succ left ih =>
      have hexec : (s.executeSingleInstruction ctx cpuIndex (answers k)).1.lastCPUIndex = cpuIndex := by
        rw [executeSingleInstruction_lastCPUIndex, hs, ite_self]
      unfold stepInstructions
      split
      · exact hs
      · dsimp only
        split
        · exact hexec
        · exact ih hexec (k + 1)

theorem stepBundles_lastCPUIndex (hs : s.lastCPUIndex = cpuIndex) (executed left : Nat) :
    (stepBundles ctx cpuIndex answers s executed left).1.lastCPUIndex = cpuIndex := by
  induction left generalizing s executed with
  | zero => exact hs
  | succ left ih =>
      have hbundle : (stepInstructions ctx cpuIndex answers s (executed * 3) 3).1.lastCPUIndex = cpuIndex :=
        stepInstructions_lastCPUIndex answers hs (executed * 3) 3
      unfold stepBundles
      dsimp only
      split
      · exact ih (by rw [countBundle_lastCPUIndex, hbundle]) (executed + 1)
      · exact hbundle

/-- A quantum that reaches its first instruction puts the cursor on its CPU. -/
theorem stepBundles_moves {answers : Nat → Answer} (hcpu : ctx.hasCpu = true)
    (hbefore : (answers 0).beforeSchedule = true) (s : SimpleCPUScheduler) (left : Nat) :
    (stepBundles ctx cpuIndex answers s 0 (left + 1)).1.lastCPUIndex = cpuIndex := by
  have hexec : (s.executeSingleInstruction ctx cpuIndex (answers 0)).1.lastCPUIndex = cpuIndex := by
    rw [executeSingleInstruction_lastCPUIndex, if_pos hcpu]
  have hbundle : (stepInstructions ctx cpuIndex answers s 0 3).1.lastCPUIndex = cpuIndex := by
    unfold stepInstructions
    rw [if_neg (by simp [hbefore])]
    dsimp only
    split
    · exact hexec
    · exact stepInstructions_lastCPUIndex answers hexec 1 2
  unfold stepBundles
  rw [Nat.zero_mul]
  dsimp only
  split
  · exact stepBundles_lastCPUIndex answers (by rw [countBundle_lastCPUIndex, hbundle]) 1 left
  · exact hbundle

/-- Stepping calls execute on a CPU of the list only. -/
theorem runnableContext_eq_some (h : runnableContext cpus cpuIndex = some ctx) :
    0 ≤ cpuIndex ∧ cpuIndex < cpus.length := by
  unfold runnableContext at h
  split at h
  · exact absurd h (by simp)
  · omega

theorem runnableContext_of_isRunnable {k : Nat} {ctx : Option ScheduledCPU} (hget : cpus[k]? = some ctx)
    (hrun : isRunnable ctx = true) : ∃ context, ctx = some context ∧ runnableContext cpus k = some context := by
  have hlt : k < cpus.length := (List.getElem?_eq_some_iff.mp hget).1
  cases ctx with
  | none => simp [isRunnable] at hrun
  | some context =>
      refine ⟨context, rfl, ?_⟩
      rw [runnableContext, if_neg (by omega), Int.toNat_natCast, hget]
      simp [Option.filter, hrun]

section
variable (s : SimpleCPUScheduler) (cpus : CPUList)

/-- A quantum leaves the cursor where it was or on its CPU, and on its CPU only if that is one of the list. -/
theorem stepQuantum_lastCPUIndex (cpuIndex : Int) (bundleCount : UInt64) (answers : Nat → Answer) :
    (s.stepQuantum cpus cpuIndex bundleCount answers).1.lastCPUIndex = s.lastCPUIndex ∨
      ((s.stepQuantum cpus cpuIndex bundleCount answers).1.lastCPUIndex = cpuIndex ∧ 0 ≤ cpuIndex ∧
        cpuIndex < cpus.length) := by
  unfold stepQuantum
  cases hctx : runnableContext cpus cpuIndex with
  | none => exact .inl rfl
  | some ctx =>
      -- the first instruction decides: it is not reached, or not executed, or the cursor is on the CPU from then on
      have hone : ∀ n, (stepBundles ctx cpuIndex answers s 0 n).1.lastCPUIndex = s.lastCPUIndex ∨
          (stepBundles ctx cpuIndex answers s 0 n).1.lastCPUIndex = cpuIndex := by
        intro n
        cases n with
        | zero => exact .inl rfl
        | succ n =>
            cases hcpu : ctx.hasCpu with
            | false =>
                left
                have hexec : s.executeSingleInstruction ctx cpuIndex (answers 0) = (s, false) := by
                  simp [executeSingleInstruction, hcpu]
                have hstop : stepInstructions ctx cpuIndex answers s 0 3 = (s, false) := by
                  unfold stepInstructions
                  split
                  · rfl
                  · simp [hexec]
                simp [stepBundles, hstop]
            | true =>
                cases hbefore : (answers 0).beforeSchedule with
                | false =>
                    left
                    have hstop : stepInstructions ctx cpuIndex answers s 0 3 = (s, false) := by
                      simp [stepInstructions, hbefore]
                    simp [stepBundles, hstop]
                | true => exact .inr (stepBundles_moves hcpu hbefore s n)
      rcases hone bundleCount.toNat with hkept | hmoved
      · exact .inl hkept
      · exact .inr ⟨hmoved, runnableContext_eq_some hctx⟩

theorem stepCPU_lastCPUIndex (cpuIndex : Int) (answer : Answer) :
    (s.stepCPU cpus cpuIndex answer).1.lastCPUIndex = s.lastCPUIndex ∨
      ((s.stepCPU cpus cpuIndex answer).1.lastCPUIndex = cpuIndex ∧ 0 ≤ cpuIndex ∧ cpuIndex < cpus.length) := by
  unfold stepCPU
  cases hctx : runnableContext cpus cpuIndex with
  | none => exact .inl rfl
  | some ctx =>
      dsimp only
      rw [executeSingleInstruction_lastCPUIndex]
      split
      · exact .inr ⟨rfl, runnableContext_eq_some hctx⟩
      · exact .inl rfl

/-- Stepping all CPUs leaves the cursor where it was or on one that executed. -/
theorem stepAllCPUs_lastCPUIndex (i : Nat) : (stepAllCPUs answers s cpus i).lastCPUIndex = s.lastCPUIndex ∨
      ∃ (k : Nat) (ctx : ScheduledCPU), (stepAllCPUs answers s cpus i).lastCPUIndex = ((i + k : Nat) : Int) ∧
        cpus[k]? = some (some ctx) ∧ isRunnable (some ctx) = true ∧ ctx.hasCpu = true := by
  induction cpus generalizing s i with
  | nil => exact .inl rfl
  | cons ctx rest ih =>
      unfold stepAllCPUs
      cases hctx : ctx.filter (fun ctx => isRunnable (some ctx)) with
      | none =>
          rcases ih s (i + 1) with hkept | ⟨k, ctx', hk, hget⟩
          · exact .inl hkept
          · exact .inr ⟨k + 1, ctx', by rw [hk]; congr 1; omega, by simpa using hget⟩
      | some context =>
          obtain ⟨rfl, hrun⟩ := Option.filter_eq_some_iff.mp hctx
          dsimp only
          rcases ih (s.executeSingleInstruction context i (answers i)).1 (i + 1) with hkept | ⟨k, ctx', hk, hget⟩
          · rw [hkept, executeSingleInstruction_lastCPUIndex]
            cases hcpu : context.hasCpu with
            | false => exact .inl (by simp)
            | true => exact .inr ⟨0, context, by simp, rfl, hrun, hcpu⟩
          · exact .inr ⟨k + 1, ctx', by rw [hk]; congr 1; omega, by simpa using hget⟩

end

/-! ## Histories that keep the cursor in range -/

/-- The cursor is that of a CPU, or fresh. -/
def CursorBounds (s : SimpleCPUScheduler) : Prop := -1 ≤ s.lastCPUIndex ∧ s.lastCPUIndex < INT_MAX

/-- A report names a CPU, or is the fresh `-1`; list sizes and the members of a snapshot fit an `int`. -/
def Op.Fits (op : Op) : Prop :=
  match op with
  | .onCPUExecuted cpuIndex _ => -1 ≤ cpuIndex ∧ cpuIndex < INT_MAX
  | .restoreSnapshot snapshot => snapshot.numCPUs ≤ INT_MAX
  | .stepCPU cpus _ _ | .stepAllCPUs cpus _ | .stepQuantum cpus _ _ _ => (cpus.length : Int) ≤ INT_MAX
  | .initializeCPUs _ | .reset | .setQuantumSize _ => True

theorem step_cursorBounds {op : Op} (hs : s.CursorBounds) (hop : op.Fits) : (step s op).CursorBounds := by
  have hfresh : (-1 : Int) ≤ -1 ∧ (-1 : Int) < INT_MAX := by decide
  unfold CursorBounds at hs ⊢
  cases op with
  | initializeCPUs _ | reset => exact hfresh
  | setQuantumSize _ => exact hs
  | onCPUExecuted _ _ => exact hop
  | restoreSnapshot snapshot =>
      have hnum : snapshot.numCPUs ≤ INT_MAX := hop
      simp only [step, restoreSnapshot]
      split
      · exact hs
      · omega
  | stepCPU cpus cpuIndex answer =>
      have hlen : (cpus.length : Int) ≤ INT_MAX := hop
      rcases stepCPU_lastCPUIndex s cpus cpuIndex answer with hkept | ⟨hmoved, hlow, hhigh⟩
      · simpa only [step, hkept] using hs
      · simp only [step, hmoved]
        omega
  | stepAllCPUs cpus answers =>
      have hlen : (cpus.length : Int) ≤ INT_MAX := hop
      rcases stepAllCPUs_lastCPUIndex answers s cpus 0 with hkept | ⟨k, ctx, hk, hget, -⟩
      · simpa only [step, hkept] using hs
      · have hlt : k < cpus.length := (List.getElem?_eq_some_iff.mp hget).1
        simp only [step, hk]
        omega
  | stepQuantum cpus cpuIndex bundleCount answers =>
      have hlen : (cpus.length : Int) ≤ INT_MAX := hop
      rcases stepQuantum_lastCPUIndex s cpus cpuIndex bundleCount answers with hkept | ⟨hmoved, hlow, hhigh⟩
      · simpa only [step, hkept] using hs
      · simp only [step, hmoved]
        omega

/-! ## One turn -/

/-- What may be called between two turns: it leaves the cursor where it is. -/
def Op.Keeps (s : SimpleCPUScheduler) (op : Op) : Prop :=
  match op with
  | .setQuantumSize _ => True
  | .initializeCPUs _ | .reset => s.lastCPUIndex = -1
  | .onCPUExecuted cpuIndex _ | .stepCPU _ cpuIndex _ | .stepQuantum _ cpuIndex _ _ => cpuIndex = s.lastCPUIndex
  | .restoreSnapshot snapshot => snapshot.lastCPUIndex = s.lastCPUIndex
  | .stepAllCPUs cpus _ =>
      ∀ (k : Nat) (ctx : ScheduledCPU), cpus[k]? = some (some ctx) → isRunnable (some ctx) = true → ctx.hasCpu = true →
        (k : Int) = s.lastCPUIndex

theorem step_lastCPUIndex_of_keeps {op : Op} (h : op.Keeps s) : (step s op).lastCPUIndex = s.lastCPUIndex := by
  cases op with
  | setQuantumSize _ => rfl
  | initializeCPUs _ | reset => exact h.symm
  | onCPUExecuted _ _ => exact h
  | restoreSnapshot snapshot =>
      simp only [step, restoreSnapshot]
      split
      · rfl
      · exact h
  | stepCPU cpus cpuIndex answer =>
      rcases stepCPU_lastCPUIndex s cpus cpuIndex answer with hkept | ⟨hmoved, -⟩
      · exact hkept
      · exact hmoved.trans h
  | stepAllCPUs cpus answers =>
      rcases stepAllCPUs_lastCPUIndex answers s cpus 0 with hkept | ⟨k, ctx, hk, hget, hrun, hcpu⟩
      · exact hkept
      · rw [step, hk, Nat.zero_add]
        exact h k ctx hget hrun hcpu
  | stepQuantum cpus cpuIndex bundleCount answers =>
      rcases stepQuantum_lastCPUIndex s cpus cpuIndex bundleCount answers with hkept | ⟨hmoved, -⟩
      · exact hkept
      · exact hmoved.trans h

/-- The slice reaches its first instruction: the quantum is not empty, is not preempted in front of it, and there is a
    CPU behind every context that is runnable. -/
def Turn.Executes (t : Turn) : Prop :=
  match t.slice with
  | .instruction _ => True
  | .quantum bundleCount answers =>
      bundleCount ≠ 0 ∧ (answers 0).beforeSchedule = true ∧
        ∀ ctx : ScheduledCPU, some ctx ∈ t.cpus → isRunnable (some ctx) = true → ctx.hasCpu = true

/-- A turn in which nothing but its own slice moves the cursor. -/
def Turn.Runs (s : SimpleCPUScheduler) (t : Turn) : Prop :=
  EveryStep step (fun s op => op.Keeps s) s t.between ∧ t.Executes ∧ (t.cpus.length : Int) ≤ INT_MAX

theorem beforeSelection_lastCPUIndex (h : EveryStep step (fun s op => op.Keeps s) s t.between) :
    (s.beforeSelection t).lastCPUIndex = s.lastCPUIndex := by
  refine run_invariant (fun s' => s'.lastCPUIndex = s.lastCPUIndex) ?_ rfl h
  intro s' op hs' hop
  rw [step_lastCPUIndex_of_keeps hop, hs']

/-- After its slice the cursor is on the CPU a turn selected. -/
theorem turn_lastCPUIndex {k : Nat} {ctx : Option ScheduledCPU} (ht : t.Executes)
    (hselected : s.selected t = some (k : Int)) (hget : t.cpus[k]? = some ctx) (hrun : isRunnable ctx = true) :
    (s.turn t).lastCPUIndex = k := by
  obtain ⟨context, rfl, hcontext⟩ := runnableContext_of_isRunnable hget hrun
  have hturn : s.turn t = (s.beforeSelection t).runSlice t.cpus k t.slice := by simp [turn, hselected]
  rw [hturn]
  unfold Turn.Executes at ht
  cases hslice : t.slice with
  | instruction cyclesTaken =>
      have hk : ¬ (k : Int) < 0 := by omega
      simp [runSlice, hk, onCPUExecuted]
  | quantum bundleCount answers =>
      rw [hslice] at ht
      obtain ⟨hcount, hbefore, hcpus⟩ := ht
      have hcpu := hcpus context (List.mem_of_getElem? hget) hrun
      obtain ⟨left, hleft⟩ : ∃ left, bundleCount.toNat = left + 1 := by
        refine Nat.exists_eq_succ_of_ne_zero ?_
        intro hzero
        exact hcount (UInt64.toNat_inj.mp hzero)
      simp only [runSlice, stepQuantum, hcontext, hleft]
      exact stepBundles_moves hcpu hbefore _ left

/-! ## Fairness -/

/-- The CPUs the round robin passes on its way from the cursor to `c`, among `n`. -/
def distance (n c : Nat) (lastCPUIndex : Int) : Nat :=
  (if lastCPUIndex < c then c - lastCPUIndex - 1 else n - 1 - lastCPUIndex + c).toNat

/-- `CPU c` is runnable, in a list of `n` at most. -/
def Turn.Offers (c n : Nat) (t : Turn) : Prop :=
  t.cpus.length ≤ n ∧ ∃ ctx, t.cpus[c]? = some ctx ∧ isRunnable ctx = true

/-- The start index of a selection, for a cursor that is fresh, on a CPU of the list, or behind it. -/
theorem startIndex_spec (hs : s.CursorBounds) (hlen : 0 < cpus.length) :
    ∃ start : Nat, s.startIndex cpus = some (start : Int) ∧ start < cpus.length ∧
      (s.lastCPUIndex + 1 < cpus.length → (start : Int) = s.lastCPUIndex + 1) ∧
      (s.lastCPUIndex + 1 = cpus.length → start = 0) := by
  obtain ⟨hlow, hhigh⟩ := hs
  have hlen' : (0 : Int) < cpus.length := by omega
  have hmod : (s.lastCPUIndex + 1).tmod cpus.length = (s.lastCPUIndex + 1) % cpus.length :=
    Int.tmod_eq_emod_of_nonneg (by omega)
  have hnonneg := Int.emod_nonneg (s.lastCPUIndex + 1) hlen'.ne'
  have hlt := Int.emod_lt_of_pos (s.lastCPUIndex + 1) hlen'
  refine ⟨((s.lastCPUIndex + 1) % cpus.length).toNat, ?_, by omega, ?_, ?_⟩
  · rw [startIndex, if_pos hhigh, hmod, Int.toNat_of_nonneg hnonneg]
  · intro hin
    rw [Int.toNat_of_nonneg hnonneg, Int.emod_eq_of_lt (by omega) hin]
  · intro hend
    rw [hend, Int.emod_self, Int.toNat_zero]

/-- A selection from a list with a runnable CPU `c` returns `c`, or one that is passed on the way to it. -/
theorem selectNextCPU_towards {c : Nat} {ctx : Option ScheduledCPU} (hs : s.CursorBounds)
    (hget : cpus[c]? = some ctx) (hrun : isRunnable ctx = true) :
    s.selectNextCPU cpus = some (c : Int) ∨
      ∃ (start k : Nat) (ctx' : Option ScheduledCPU), s.startIndex cpus = some (start : Int) ∧ start < cpus.length ∧
        s.selectNextCPU cpus = some (k : Int) ∧ cpus[k]? = some ctx' ∧ isRunnable ctx' = true ∧ k ≠ c ∧
        ((start ≤ k ∧ (start ≤ c → k < c)) ∨ (k < start ∧ k < c ∧ c < start)) := by
  have hc : c < cpus.length := (List.getElem?_eq_some_iff.mp hget).1
  by_cases hlen : 1 < cpus.length
  · obtain ⟨start, hstart, hlt, -⟩ := startIndex_spec hs (by omega : 0 < cpus.length)
    rcases selectNextCPU_of_start hlen hstart with ⟨-, hall⟩ | ⟨k, ctx', hk, hget', hrun', hway⟩
    · exact absurd hrun (by simp [hall ctx (List.mem_of_getElem? hget)])
    · by_cases hkc : k = c
      · exact .inl (by rw [hk, hkc])
      · refine .inr ⟨start, k, ctx', hstart, hlt, hk, hget', hrun', hkc, ?_⟩
        rcases hway with ⟨hle, hbefore⟩ | ⟨hlt', hbehind, hbefore⟩
        · refine .inl ⟨hle, ?_⟩
          intro hsc
          by_contra hge
          exact absurd hrun (by simp [hbefore c ctx hsc (by omega) hget])
        · have hcs : c < start := by
            by_contra hge
            exact absurd hrun (by simp [hbehind c ctx (by omega) hget])
          have hkc' : k < c := by
            by_contra hge
            exact absurd hrun (by simp [hbefore c ctx (by omega) hget])
          exact .inr ⟨hlt', hkc', hcs⟩
  · -- one CPU, and it is `c`
    left
    obtain ⟨a, rfl⟩ := List.length_eq_one_iff.mp (by omega : cpus.length = 1)
    obtain rfl : c = 0 := by simpa using hc
    obtain rfl : a = ctx := by simpa using hget
    simp [selectNextCPU, hrun]

/-- **The step.** A turn that offers `c` selects it, or moves the cursor to another CPU of the list, and closer to `c` if
    it was on one of the list before. -/
theorem turn_closer {c n : Nat} (hs : s.CursorBounds) (ht : t.Runs s) (hoffers : t.Offers c n) :
    s.selected t = some (c : Int) ∨
      ((s.turn t).CursorBounds ∧ distance n c (s.turn t).lastCPUIndex + 2 ≤ n ∧
        (s.lastCPUIndex < t.cpus.length → distance n c (s.turn t).lastCPUIndex < distance n c s.lastCPUIndex)) := by
  obtain ⟨hbetween, hexec, hint⟩ := ht
  obtain ⟨hlen, ctx, hget, hrun⟩ := hoffers
  have hlast := beforeSelection_lastCPUIndex hbetween
  have hbounds : (s.beforeSelection t).CursorBounds := by simpa only [CursorBounds, hlast] using hs
  have hc : c < t.cpus.length := (List.getElem?_eq_some_iff.mp hget).1
  rcases selectNextCPU_towards hbounds hget hrun with hhit | ⟨start, k, ctx', hstart, hlt, hk, hget', hrun', hne, hway⟩
  · exact .inl hhit
  · right
    have hturn : (s.turn t).lastCPUIndex = k := turn_lastCPUIndex hexec hk hget' hrun'
    have hk' : k < t.cpus.length := (List.getElem?_eq_some_iff.mp hget').1
    obtain ⟨start', hstart', -, hnext, hwrap⟩ := startIndex_spec hbounds (by omega : 0 < t.cpus.length)
    obtain rfl : start = start' := by
      rw [hstart] at hstart'
      exact Int.natCast_inj.mp (Option.some.inj hstart')
    rw [hlast] at hnext hwrap
    have hlow : -1 ≤ s.lastCPUIndex := hs.1
    refine ⟨⟨by omega, by omega⟩, ?_, ?_⟩
    · rw [hturn]
      unfold distance
      split <;> omega
    · intro hin
      -- the cursor was in front of `start`, or on the last CPU with `start = 0`
      have hcases : (start : Int) = s.lastCPUIndex + 1 ∨ (s.lastCPUIndex + 1 = t.cpus.length ∧ start = 0) := by omega
      rw [hturn]
      unfold distance
      split <;> split <;> omega

/-- A window of turns selects a CPU. -/
def SelectsWithin (s : SimpleCPUScheduler) (c : Nat) (ts : List Turn) : Prop :=
  ∃ pre t post, ts = pre ++ t :: post ∧ (run turn s pre).selected t = some (c : Int)

/-- **Fairness.** Over a window of `n` turns, each of them offering `c` and executing something, `c` is selected. Behind
    the first turn the cursor must be on a CPU of the list, so none of those it was on is taken away. -/
theorem selectsWithin_window {ts : List Turn} {c : Nat} (hs : s.CursorBounds) (hfirst : t.Runs s)
    (hrest : EveryStep turn (fun s t => t.Runs s ∧ s.lastCPUIndex < t.cpus.length) (s.turn t) ts)
    (hoffers : ∀ t' ∈ t :: ts, t'.Offers c (ts.length + 1)) : s.SelectsWithin c (t :: ts) := by
  have hmem : ∀ t' ∈ ts, t'.Offers c (ts.length + 1) := fun t' ht' => hoffers t' (List.mem_cons_of_mem t ht')
  rcases turn_closer hs hfirst (hoffers t List.mem_cons_self) with hhit | ⟨hbounds, hdist, -⟩
  · exact ⟨[], t, ts, rfl, hhit⟩
  · -- the turns left are more than the CPUs left on the way
    have hstep : ∀ s' t', CursorBounds s' →
        ((t'.Runs s' ∧ s'.lastCPUIndex < t'.cpus.length) ∧ t'.Offers c (ts.length + 1)) →
        s'.selected t' = some (c : Int) ∨ ((s'.turn t').CursorBounds ∧
          distance (ts.length + 1) c (s'.turn t').lastCPUIndex < distance (ts.length + 1) c s'.lastCPUIndex) := by
      rintro s' t' hs' ⟨⟨hruns, hin⟩, hoffers'⟩
      rcases turn_closer hs' hruns hoffers' with hhit | ⟨hbounds', -, hcloser⟩
      · exact .inl hhit
      · exact .inr ⟨hbounds', hcloser hin⟩
    have hwindow := hit_of_decreasing CursorBounds (fun s' => distance (ts.length + 1) c s'.lastCPUIndex) hstep hbounds
      (everyStep_and hrest (everyStep_of_forall hmem)) (by omega)
    obtain ⟨pre, t', post, hsplit, hhit⟩ := hwindow
    exact ⟨t :: pre, t', post, by rw [hsplit]; rfl, hhit⟩

/-- **The round robin.** After every history of calls whose reports name a CPU, a selection is right for every list, and
    over a window of as many turns as there are CPUs, each executing something, a CPU that stays runnable is selected. -/
theorem selectNextCPU_roundRobin (ops : List Op) (hops : EveryStep step (fun _ op => op.Fits) {} ops) :
    (∀ cpus, ∃ i, (run step {} ops).selectNextCPU cpus = some i ∧ Selection cpus i) ∧
      ∀ (c : Nat) (t : Turn) (ts : List Turn), t.Runs (run step {} ops) →
        EveryStep turn (fun s t => t.Runs s ∧ s.lastCPUIndex < t.cpus.length) ((run step {} ops).turn t) ts →
        (∀ t' ∈ t :: ts, t'.Offers c (ts.length + 1)) → (run step {} ops).SelectsWithin c (t :: ts) := by
  have hbounds : (run step {} ops).CursorBounds :=
    run_invariant CursorBounds (fun _ _ hs hop => step_cursorBounds hs hop) ⟨by decide, by decide⟩ hops
  refine ⟨?_, ?_⟩
  · intro cpus
    exact (selectNextCPU_iff _ cpus).mpr (cursorFits_of_bounds hbounds.1 hbounds.2 cpus)
  · intro c t ts hfirst hrest hoffers
    exact selectsWithin_window hbounds hfirst hrest hoffers

/-- Two running CPUs. -/
def twoRunning : CPUList := [some ⟨true, .RUNNING, true⟩, some ⟨true, .RUNNING, true⟩]

/-- A turn over them with a quantum of `n` bundles. -/
def bundles (n : UInt64) : Turn := ⟨[], twoRunning, .quantum n fun _ => {}⟩

theorem selectNextCPU_roundRobin_two :
    (run step {} [.initializeCPUs twoRunning, .onCPUExecuted 1 7]).SelectsWithin 1 [bundles 1, bundles 1] := by
  have hoffers : (bundles 1).Offers 1 2 := ⟨by decide, _, rfl, rfl⟩
  have hexec : (bundles 1).Executes := by
    refine ⟨by decide, rfl, ?_⟩
    intro ctx hmem _
    obtain rfl : ctx = ⟨true, .RUNNING, true⟩ := by simpa [bundles, twoRunning] using hmem
    rfl
  have hfit : ((bundles 1).cpus.length : Int) ≤ INT_MAX := by decide
  refine (selectNextCPU_roundRobin [.initializeCPUs twoRunning, .onCPUExecuted 1 7] ⟨trivial, ⟨by decide, by decide⟩, trivial⟩).2 1
    (bundles 1) [bundles 1] ⟨trivial, hexec, hfit⟩ ⟨⟨⟨trivial, hexec, hfit⟩, by decide⟩, trivial⟩ ?_
  intro t' ht'
  obtain rfl : t' = bundles 1 := by simpa using ht'
  exact hoffers

/-- A report of a CPU in front of the list breaks the next selection, and quanta of no bundles starve a CPU. -/
theorem selectNextCPU_starves :
    (¬ ∀ ops cpus, ∃ i, (run step {} ops).selectNextCPU cpus = some i ∧ Selection cpus i) ∧
      ¬ ∀ (ops : List Op) (c : Nat) (ts : List Turn), (∀ t ∈ ts, t.Offers c ts.length) →
          (run step {} ops).SelectsWithin c ts := by
  refine ⟨?_, ?_⟩
  · intro h
    obtain ⟨i, hi, -⟩ := h [.onCPUExecuted (-2) 0] twoRunning
    have hnone : (run step {} [.onCPUExecuted (-2) 0]).selectNextCPU twoRunning = none := by decide
    exact absurd (hnone.symm.trans hi) (by simp)
  · intro h
    have hoffers : ∀ t ∈ [bundles 0, bundles 0], t.Offers 1 2 := by
      intro t ht
      obtain rfl : t = bundles 0 := by simpa using ht
      exact ⟨by decide, _, rfl, rfl⟩
    obtain ⟨pre, t, post, hsplit, hhit⟩ := h [] 1 [bundles 0, bundles 0] hoffers
    -- every turn begins with the fresh cursor, and selects CPU 0
    have hstay : ∀ ts : List Turn, (∀ t ∈ ts, t = bundles 0) → run turn {} ts = {} := by
      intro ts hts
      induction ts with
      | nil => rfl
      | cons t ts ih =>
          obtain ⟨rfl, hts'⟩ := List.forall_mem_cons.mp hts
          exact ih hts'
    have hsame : ∀ t' ∈ pre ++ t :: post, t' = bundles 0 := by
      rw [← hsplit]
      simp
    have hpre : run turn {} pre = {} := hstay pre fun t ht => hsame t (List.mem_append_left _ ht)
    obtain rfl : t = bundles 0 := hsame t (by simp)
    rw [run_nil, hpre] at hhit
    exact absurd hhit (by decide)

end GuideXOS.Vm.SimpleCPUScheduler
