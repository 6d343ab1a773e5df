/-!
# `Runs` — runs of a machine given by a step function

A machine is a step function `step : σ → α → σ` over a state type and an operation type. A property of
whole runs is reduced here to one obligation on a single step: `run_invariant` for what holds in the last
state, `everyStep_congr` for a property of every step that is equivalent, under an invariant, to a
condition on the operation and the state it is applied in. `given_fresh` is about what a run gives out, such as
numbers or handles. `returned_filter` says which operations a run does not notice. `Within` counts the steps of a relation, for an operation that takes several of them.
-/

namespace Lib.Runs

variable {σ α : Type _}

/-- The state a run over `ops` ends in. -/
def run (step : σ → α → σ) : σ → List α → σ
  | s, [] => s
  | s, op :: ops => run step (step s op) ops

variable (step : σ → α → σ)

@[simp] theorem run_nil (s : σ) : run step s [] = s := rfl

@[simp] theorem run_cons (s : σ) (op : α) (ops : List α) :
    run step s (op :: ops) = run step (step s op) ops := rfl

theorem run_append (s : σ) (ops ops' : List α) : run step s (ops ++ ops') = run step (run step s ops) ops' := by
  induction ops generalizing s with
  | nil => rfl
  | cons op ops ih => exact ih (step s op)

/-- **Every step of a run.** `P` holds of each operation together with the state it is applied in. -/
def EveryStep (step : σ → α → σ) (P : σ → α → Prop) : σ → List α → Prop
  | _, [] => True
  | s, op :: ops => P s op ∧ EveryStep step P (step s op) ops

variable {step : σ → α → σ}

variable {ops : List α}

variable (Inv : σ → Prop)

variable {P : σ → α → Prop}

variable {s : σ}

/-- **The invariant rule.** What holds at the start and is kept by every step that meets `P` holds at the
    end of every run whose steps all meet `P`. -/
theorem run_invariant (hstep : ∀ s op, Inv s → P s op → Inv (step s op)) (hs : Inv s)
    (hops : EveryStep step P s ops) : Inv (run step s ops) := by
  induction ops generalizing s with
  | nil => exact hs
  | cons op ops ih => exact ih (hstep s op hs hops.1) hops.2

variable {Q : σ → α → Prop}

/-- **Step properties under an invariant.** If a step that meets `P` keeps the invariant and has `Q`, every
    run whose steps all meet `P` has `Q` at every step. -/
theorem everyStep_of_invariant (hstep : ∀ s op, Inv s → P s op → Inv (step s op))
    (hq : ∀ s op, Inv s → P s op → Q s op) (hs : Inv s) (hops : EveryStep step P s ops) : EveryStep step Q s ops := by
  induction ops generalizing s with
  | nil => trivial
  | cons op ops ih => exact ⟨hq s op hs hops.1, ih (hstep s op hs hops.1) hops.2⟩

/-- **Step properties up to an invariant.** If under the invariant `Q` and `P` agree on a step, and a step
    meeting `P` keeps the invariant, then they agree on every run. -/
theorem everyStep_congr (hiff : ∀ s op, Inv s → (Q s op ↔ P s op))
    (hstep : ∀ s op, Inv s → P s op → Inv (step s op)) (hs : Inv s) :
    EveryStep step Q s ops ↔ EveryStep step P s ops := by
  induction ops generalizing s with
  | nil => exact Iff.rfl
  | cons op ops ih =>
      constructor
      · rintro ⟨hq, hrest⟩
        have hp := (hiff s op hs).mp hq
        exact ⟨hp, (ih (hstep s op hs hp)).mp hrest⟩
      · rintro ⟨hp, hrest⟩
        exact ⟨(hiff s op hs).mpr hp, (ih (hstep s op hs hp)).mpr hrest⟩

/-- A condition on the operations alone. -/
theorem everyStep_of_forall {P : α → Prop} (h : ∀ op ∈ ops, P op) : EveryStep step (fun _ op => P op) s ops := by
  induction ops generalizing s with
  | nil => trivial
  | cons op ops ih =>
      obtain ⟨hop, hrest⟩ := List.forall_mem_cons.mp h
      exact ⟨hop, ih hrest⟩

theorem everyStep_and (hp : EveryStep step P s ops) (hq : EveryStep step Q s ops) :
    EveryStep step (fun s op => P s op ∧ Q s op) s ops := by
  induction ops generalizing s with
  | nil => trivial
  | cons op ops ih => exact ⟨⟨hp.1, hq.1⟩, ih hp.2 hq.2⟩

/-- **Lockstep.** Two machines that a step keeps related are related after every run whose steps all meet `P`. -/
theorem run_related {τ : Type _} {step' : τ → α → τ} {r : σ → τ → Prop}
    (hstep : ∀ s t op, r s t → P s op → r (step s op) (step' t op)) {t : τ} (h : r s t)
    (hops : EveryStep step P s ops) : r (run step s ops) (run step' t ops) := by
  induction ops generalizing s t with
  | nil => exact h
  | cons op ops ih => exact ih (hstep s t op h hops.1) hops.2

/-! ## What a run gives out -/

/-- What the operations of a run give out, for those that give something out. -/
def given {β : Type _} (step : σ → α → σ) (out : σ → α → Option β) : σ → List α → List β
  | _, [] => []
  | s, op :: ops => (out s op).toList ++ given step out (step s op) ops

/-- **Fresh outputs.** If a step gives out only what is not known, if it is known from then on, and if nothing
    known is forgotten, a run gives out nothing twice and nothing that was known at its start. -/
theorem given_fresh {β : Type _} {out : σ → α → Option β} (Known : σ → β → Prop)
    (hstep : ∀ s op, Inv s → P s op → Inv (step s op))
    (hnew : ∀ s op b, Inv s → P s op → out s op = some b → ¬ Known s b ∧ Known (step s op) b)
    (hkeep : ∀ s op b, Inv s → P s op → Known s b → Known (step s op) b) (hs : Inv s)
    (hops : EveryStep step P s ops) : (given step out s ops).Nodup ∧ ∀ b ∈ given step out s ops, ¬ Known s b := by
  induction ops generalizing s with
  | nil => exact ⟨List.nodup_nil, List.forall_mem_nil _⟩
  | cons op ops ih =>
      obtain ⟨hop, hrest⟩ := hops
      obtain ⟨hnodup, hunknown⟩ := ih (hstep s op hs hop) hrest
      have hunknown' : ∀ b ∈ given step out (step s op) ops, ¬ Known s b :=
        fun b hb hknown => hunknown b hb (hkeep s op b hs hop hknown)
      rw [given]
      cases hout : out s op with
      | none => exact ⟨hnodup, hunknown'⟩
      | some b =>
          obtain ⟨hfresh, hknown⟩ := hnew s op b hs hop hout
          refine ⟨List.nodup_cons.mpr ⟨fun hmem => hunknown b hmem hknown, hnodup⟩, ?_⟩
          exact List.forall_mem_cons.mpr ⟨hfresh, hunknown'⟩

/-! ## Silent operations -/

/-- What the operations that are not silent return along a run. -/
def returned {β : Type _} (step : σ → α → σ) (out : σ → α → β) (silent : α → Bool) : σ → List α → List β
  | _, [] => []
  | s, op :: ops =>
      if silent op then returned step out silent (step s op) ops
      else out s op :: returned step out silent (step s op) ops

/-- **Silent operations may be left out.** If a silent operation keeps a state related to itself, and the others
    return the same in related states and keep them related, a run returns what it returns without its silent
    operations. -/
theorem returned_filter {β : Type _} {out : σ → α → β} {silent : α → Bool} {r : σ → σ → Prop}
    (hout : ∀ s t op, r s t → silent op = false → out s op = out t op)
    (hstep : ∀ s t op, r s t → silent op = false → r (step s op) (step t op))
    (hsilent : ∀ s t op, r s t → silent op = true → r (step s op) t) {t : σ} (h : r s t) (ops : List α) :
    returned step out silent s ops = returned step out silent t (ops.filter fun op => !silent op) ∧
      r (run step s ops) (run step t (ops.filter fun op => !silent op)) := by
  induction ops generalizing s t with
  | nil => exact ⟨rfl, h⟩
  | cons op ops ih =>
      cases hop : silent op with
      | true =>
          rw [List.filter_cons_of_neg (by simp [hop]), returned, if_pos hop]
          exact ih (hsilent s t op h hop)
      | false =>
          rw [List.filter_cons_of_pos (by simp [hop]), returned, returned, if_neg (by simp [hop]),
            if_neg (by simp [hop]), hout s t op h hop]
          obtain ⟨hrest, hend⟩ := ih (hstep s t op h hop)
          exact ⟨by rw [hrest], hend⟩

/-! ## A bounded number of steps -/

/-- At most `n` steps of a relation. -/
inductive Within (r : σ → σ → Prop) : Nat → σ → σ → Prop
  | refl {n : Nat} (s : σ) : Within r n s s
  | step {n : Nat} {s t u : σ} : Within r n s t → r t u → Within r (n + 1) s u

namespace Within
variable {r : σ → σ → Prop} {m n : Nat} {s t u : σ}

theorem single (h : r s t) : Within r 1 s t := .step (n := 0) (.refl s) h

theorem mono (h : Within r m s t) (hle : m ≤ n) : Within r n s t := by
  induction h generalizing n with
  | refl s => exact .refl s
  | step _ hr ih =>
      obtain ⟨k, rfl⟩ := Nat.exists_eq_add_of_le hle
      rw [Nat.add_right_comm]
      exact .step (ih (Nat.le_add_right _ _)) hr

theorem trans (h : Within r m s t) (h' : Within r n t u) : Within r (m + n) s u := by
  induction h' with
  | refl t => exact h.mono (Nat.le_add_right _ _)
  | step _ hr ih => exact .step (ih h) hr

/-- What every step keeps, a bounded number of them keeps. -/
theorem invariant {Inv : σ → Prop} (hstep : ∀ s t, Inv s → r s t → Inv t) (h : Within r n s t) (hs : Inv s) :
    Inv t := by
  induction h with
  | refl s => exact hs
  | step _ hr ih => exact hstep _ _ (ih hs) hr

end Within

end Lib.Runs

/-!
## Something good happens within a bound

A measure of the state that every step lowers, unless the step is the one waited for, bounds the wait. This is
`hit_of_decreasing`. The steps may be conditional, and the measure needs to drop only under an invariant.
-/

namespace Lib.Runs

variable {σ α : Type _} {step : σ → α → σ}

/-- **Bounded waiting.** If each step either is a hit or keeps the invariant and lowers the measure, a run longer than
    the measure of its first state has a hit. -/
theorem hit_of_decreasing {P hit : σ → α → Prop} (Inv : σ → Prop) (measure : σ → Nat)
    (hstep : ∀ s op, Inv s → P s op → hit s op ∨ (Inv (step s op) ∧ measure (step s op) < measure s))
    {s : σ} {ops : List α} (hs : Inv s) (hops : EveryStep step P s ops) (hlen : measure s < ops.length) :
    ∃ pre op post, ops = pre ++ op :: post ∧ hit (run step s pre) op := by
  induction ops generalizing s with
  | nil => exact absurd hlen (Nat.not_lt_zero _)
  | cons op ops ih =>
      obtain ⟨hp, hrest⟩ := hops
      rcases hstep s op hs hp with hhit | ⟨hinv, hdrop⟩
      · exact ⟨[], op, ops, rfl, hhit⟩
      · -- the rest of the run is still longer than the measure
        have hlen' : measure (step s op) < ops.length := by
          simp only [List.length_cons] at hlen
          omega
        obtain ⟨pre, op', post, hsplit, hhit⟩ := ih hinv hrest hlen'
        exact ⟨op :: pre, op', post, by rw [hsplit]; rfl, hhit⟩

end Lib.Runs
