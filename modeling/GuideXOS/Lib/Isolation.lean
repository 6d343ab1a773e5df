import GuideXOS.Lib.Runs
import Mathlib.Logic.Function.Basic

/-!
# `Isolation` — parts that run over one shared state

A system of parts, named by `ι`, executes operations of its parts in any order. An operation sees the state
of its own part and a state all parts share, may change both, and yields an observation. A part is isolated
in a run when it observes what it observes where its operations run alone.

`Watch` runs beside a system and keeps what the shared state would be, had only the watched part run.
`isolated` reduces isolation to one condition on every operation of the part: if it looks at the shared
state, it finds there what its own operations left.
-/

namespace Lib.Isolation
open Lib.Runs

variable {ι γ σ α β : Type _} [DecidableEq ι]

/-- An operation on the shared state and on the state of the part that executes it. -/
abbrev Apply (γ σ α β : Type _) := α → γ → σ → γ × σ × β

/-- The shared state, the parts, and what each part has observed, first observation first. -/
structure System (ι γ σ β : Type _) where
  shared : γ
  parts : ι → σ
  observed : ι → List β

/-- One operation of one part. -/
def System.step (apply : Apply γ σ α β) (s : System ι γ σ β) (op : ι × α) : System ι γ σ β :=
  let r := apply op.2 s.shared (s.parts op.1)
  { shared := r.1
    parts := Function.update s.parts op.1 r.2.1
    observed := Function.update s.observed op.1 (s.observed op.1 ++ [r.2.2]) }

section Step
variable (apply : Apply γ σ α β) (s : System ι γ σ β) (i : ι) (a : α)

@[simp] theorem parts_step : (s.step apply (i, a)).parts i = (apply a s.shared (s.parts i)).2.1 :=
  Function.update_self ..

@[simp] theorem observed_step :
    (s.step apply (i, a)).observed i = s.observed i ++ [(apply a s.shared (s.parts i)).2.2] :=
  Function.update_self ..

variable {s i} {op : ι × α}

theorem parts_step_of_ne (h : op.1 ≠ i) : (s.step apply op).parts i = s.parts i :=
  Function.update_of_ne (Ne.symm h) ..

theorem observed_step_of_ne (h : op.1 ≠ i) : (s.step apply op).observed i = s.observed i :=
  Function.update_of_ne (Ne.symm h) ..

end Step

/-- The operations of a part, in their order. -/
def operationsOf (i : ι) (ops : List (ι × α)) : List (ι × α) := ops.filter fun op => op.1 = i

/-- A system, with what the shared state would be if only the watched part had run. -/
structure Watch (ι γ σ β : Type _) where
  system : System ι γ σ β
  own : γ

def Watch.step (apply : Apply γ σ α β) (i : ι) (w : Watch ι γ σ β) (op : ι × α) : Watch ι γ σ β where
  system := w.system.step apply op
  own := if op.1 = i then (apply op.2 w.own (w.system.parts i)).1 else w.own

/-- An operation of the part that looks at the shared state finds what the part left there. -/
def Watch.Undisturbed (looks : α → σ → Prop) (i : ι) (w : Watch ι γ σ β) (op : ι × α) : Prop :=
  op.1 = i → looks op.2 (w.system.parts i) → w.system.shared = w.own

/-- The other operations do the same to their part whatever the shared state is. -/
def Blind (apply : Apply γ σ α β) (looks : α → σ → Prop) : Prop :=
  ∀ op s, ¬ looks op s → ∀ g g', (apply op g s).2 = (apply op g' s).2

/-- The system in which the part runs alone, seen from the watched one. -/
structure Alone (i : ι) (w : Watch ι γ σ β) (s : System ι γ σ β) : Prop where
  shared : s.shared = w.own
  part : s.parts i = w.system.parts i
  observed : s.observed i = w.system.observed i

variable {apply : Apply γ σ α β} {looks : α → σ → Prop} {i : ι} {w : Watch ι γ σ β} {s : System ι γ σ β}

/-- An operation of another part changes nothing for the part that runs alone. -/
theorem Alone.other (h : Alone i w s) {op : ι × α} (hop : op.1 ≠ i) : Alone i (w.step apply i op) s where
  shared := h.shared.trans (if_neg hop).symm
  part := h.part.trans (parts_step_of_ne apply hop).symm
  observed := h.observed.trans (observed_step_of_ne apply hop).symm

/-- **The step lemma.** An undisturbed operation of the part does the same in both systems. -/
theorem Alone.own (hblind : Blind apply looks) (h : Alone i w s) {a : α} (hop : w.Undisturbed looks i (i, a)) :
    Alone i (w.step apply i (i, a)) (s.step apply (i, a)) := by
  have hsame : (apply a s.shared (s.parts i)).2 = (apply a w.system.shared (w.system.parts i)).2 := by
    rw [h.part, h.shared]
    by_cases hlooks : looks a (w.system.parts i)
    · rw [hop rfl hlooks]
    · exact hblind a _ hlooks _ _
  constructor
  · show (apply a s.shared (s.parts i)).1 = if i = i then (apply a w.own (w.system.parts i)).1 else w.own
    rw [if_pos rfl, h.part, h.shared]
  · show _ = (w.system.step apply (i, a)).parts i
    rw [parts_step, parts_step, hsame]
  · show _ = (w.system.step apply (i, a)).observed i
    rw [observed_step, observed_step, hsame, h.observed]

/-- **Isolation.** If every operation of a part is undisturbed, the part ends as it does where its operations
    run alone, and has observed the same. -/
theorem isolated (hblind : Blind apply looks) {ops : List (ι × α)} (h : Alone i w s)
    (hops : EveryStep (Watch.step apply i) (Watch.Undisturbed looks i) w ops) :
    Alone i (run (Watch.step apply i) w ops) (run (System.step apply) s (operationsOf i ops)) := by
  induction ops generalizing w s with
  | nil => exact h
  | cons op ops ih =>
      obtain ⟨hop, hrest⟩ := hops
      obtain ⟨j, a⟩ := op
      by_cases hj : j = i
      · subst hj
        have hops : operationsOf j ((j, a) :: ops) = (j, a) :: operationsOf j ops :=
          List.filter_cons_of_pos (by simp)
        rw [hops]
        exact ih (h.own hblind hop) hrest
      · have hops : operationsOf i ((j, a) :: ops) = operationsOf i ops :=
          List.filter_cons_of_neg (by simpa using hj)
        rw [hops]
        exact ih (h.other hj) hrest

/-- The watched run is the run. -/
theorem system_run (i : ι) (w : Watch ι γ σ β) (ops : List (ι × α)) :
    (run (Watch.step apply i) w ops).system = run (System.step apply) w.system ops := by
  induction ops generalizing w with
  | nil => rfl
  | cons op ops ih => exact ih _

end Lib.Isolation
