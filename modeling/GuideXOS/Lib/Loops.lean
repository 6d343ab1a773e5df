import Mathlib.Data.Finite.Prod
import GuideXOS.Lib.Fallible

/-!
# `Loops` — loops that nothing in the code bounds

A turn of a loop goes on in another state or leaves the loop, and puts something out either way; or it fails. `run`
takes turns as long as there is fuel. What a loop that ends has put out is what its turns put out, in order (`Yields`).
Over finitely many states there is fuel enough if and only if no turn on the way fails and no state on the way comes
back (`ends_iff`).
-/

namespace Lib.Loops
open Fallible Relation

/-- What a turn of a loop leads to. -/
inductive Turn (σ ω ρ : Type)
  | again (out : List ω) (s : σ)
  | leave (out : List ω) (r : ρ)

variable {σ ω ρ ε : Type} {unfinished : ε} {body : σ → Except ε (Turn σ ω ρ)} {s t : σ} {n m : Nat}
  {out : List ω} {r : ρ} {result : List ω × ρ}

/-! ## Running a loop -/

def run (unfinished : ε) (body : σ → Except ε (Turn σ ω ρ)) : Nat → σ → Except ε (List ω × ρ)
  | 0, _ => .error unfinished
  | n + 1, s => do
      match ← body s with
      | .again out t => do
          let (more, r) ← run unfinished body n t
          pure (out ++ more, r)
      | .leave out r => pure (out, r)

theorem run_leave (h : body s = .ok (.leave out r)) (n : Nat) : run unfinished body (n + 1) s = .ok (out, r) := by
  rw [run, h]
  rfl

theorem run_again (h : body s = .ok (.again out t)) (n : Nat) : run unfinished body (n + 1) s =
    (run unfinished body n t >>= fun result => pure (out ++ result.1, result.2)) := by
  rw [run, h]
  rfl

theorem run_error {e : ε} (h : body s = .error e) (n : Nat) : run unfinished body (n + 1) s = .error e := by
  rw [run, h]
  rfl

/-- What the first turn of a run was. -/
theorem run_succ_eq_ok (h : run unfinished body (n + 1) s = .ok result) :
    body s = .ok (.leave result.1 result.2) ∨
      ∃ out t rest, body s = .ok (.again out t) ∧ run unfinished body n t = .ok rest ∧
        result = (out ++ rest.1, rest.2) := by
  cases hbody : body s with
  | error e =>
      rw [run_error hbody] at h
      cases h
  | ok turn =>
      cases turn with
      | leave out r =>
          rw [run_leave hbody] at h
          obtain rfl := Except.ok.inj h
          exact .inl rfl
      | again out t =>
          rw [run_again hbody] at h
          obtain ⟨rest, hrest, heq⟩ := bind_eq_ok.mp h
          exact .inr ⟨out, t, rest, rfl, hrest, (Except.ok.inj heq).symm⟩

/-- More fuel changes nothing. -/
theorem run_mono (h : run unfinished body n s = .ok result) (hle : n ≤ m) :
    run unfinished body m s = .ok result := by
  induction n generalizing s m result with
  | zero => cases h
  | succ n ih =>
      obtain ⟨m, rfl⟩ := Nat.exists_eq_succ_of_ne_zero (Nat.ne_of_gt (Nat.lt_of_lt_of_le n.succ_pos hle))
      rcases run_succ_eq_ok h with hbody | ⟨out, t, rest, hbody, hrest, rfl⟩
      · exact run_leave hbody m
      · rw [run_again hbody, ih hrest (Nat.le_of_succ_le_succ hle)]
        rfl

/-- **What a loop puts out**, and what it leaves with. -/
inductive Yields (body : σ → Except ε (Turn σ ω ρ)) : σ → List ω → ρ → Prop
  | leave {s : σ} {out : List ω} {r : ρ} (h : body s = .ok (.leave out r)) : Yields body s out r
  | again {s t : σ} {out more : List ω} {r : ρ} (h : body s = .ok (.again out t)) (hmore : Yields body t more r) :
      Yields body s (out ++ more) r

theorem yields_of_run (h : run unfinished body n s = .ok (out, r)) : Yields body s out r := by
  induction n generalizing s out with
  | zero => cases h
  | succ n ih =>
      rcases run_succ_eq_ok h with hbody | ⟨more, t, rest, hbody, hrest, heq⟩
      · exact .leave hbody
      · obtain ⟨rfl, rfl⟩ := Prod.mk.inj heq
        exact .again hbody (ih hrest)

theorem run_of_yields (h : Yields body s out r) : ∃ n, run unfinished body n s = .ok (out, r) := by
  induction h with
  | leave h => exact ⟨1, run_leave h 0⟩
  | again h _ ih =>
      obtain ⟨n, hn⟩ := ih
      refine ⟨n + 1, ?_⟩
      rw [run_again h, hn]
      rfl

/-! ## Ending -/

/-- A turn that goes on. -/
def Goes (body : σ → Except ε (Turn σ ω ρ)) (s t : σ) : Prop := ∃ out, body s = .ok (.again out t)

/-- Some fuel is enough. -/
def Ends (unfinished : ε) (body : σ → Except ε (Turn σ ω ρ)) (s : σ) : Prop :=
  ∃ n result, run unfinished body n s = .ok result

theorem run_of_goes (h : run unfinished body (n + 1) s = .ok result) (hgoes : Goes body s t) :
    ∃ rest, run unfinished body n t = .ok rest := by
  obtain ⟨out, hout⟩ := hgoes
  rcases run_succ_eq_ok h with hbody | ⟨_, _, rest, hbody, hrest, -⟩
  · cases hbody.symm.trans hout
  · cases hbody.symm.trans hout
    exact ⟨rest, hrest⟩

theorem Ends.of_reaches (h : Ends unfinished body s) (hreaches : ReflTransGen (Goes body) s t) :
    Ends unfinished body t := by
  induction hreaches with
  | refl => exact h
  | tail _ hgoes ih =>
      obtain ⟨n, result, hrun⟩ := ih
      cases n with
      | zero => cases hrun
      | succ n =>
          obtain ⟨rest, hrest⟩ := run_of_goes hrun hgoes
          exact ⟨n, rest, hrest⟩

theorem Ends.turn (h : Ends unfinished body s) : ∃ turn, body s = .ok turn := by
  obtain ⟨n, result, hrun⟩ := h
  cases n with
  | zero => cases hrun
  | succ n =>
      rcases run_succ_eq_ok hrun with hbody | ⟨_, _, _, hbody, -⟩
      · exact ⟨_, hbody⟩
      · exact ⟨_, hbody⟩

/-- A state that comes back comes back with less fuel every time. -/
theorem not_back_of_run (h : run unfinished body n s = .ok result) : ¬ TransGen (Goes body) s s := by
  induction n generalizing s result with
  | zero => cases h
  | succ n ih =>
      intro hback
      obtain ⟨t, hgoes, hreaches⟩ := TransGen.head'_iff.mp hback
      obtain ⟨rest, hrest⟩ := run_of_goes h hgoes
      exact ih hrest (TransGen.tail' hreaches hgoes)

theorem ends_of_turns (hturn : ∃ turn, body s = .ok turn) (hnext : ∀ t, Goes body s t → Ends unfinished body t) :
    Ends unfinished body s := by
  obtain ⟨turn, hbody⟩ := hturn
  cases turn with
  | leave out r => exact ⟨1, (out, r), run_leave hbody 0⟩
  | again out t =>
      obtain ⟨n, result, hrun⟩ := hnext t ⟨out, hbody⟩
      refine ⟨n + 1, (out ++ result.1, result.2), ?_⟩
      rw [run_again hbody, hrun]
      rfl

/-- **A loop over finitely many states ends** if and only if no turn on the way fails and no state comes back. -/
theorem ends_iff [Finite σ] : Ends unfinished body s ↔
    ∀ t, ReflTransGen (Goes body) s t → (∃ turn, body t = .ok turn) ∧ ¬ TransGen (Goes body) t t := by
  constructor
  · intro h t hreaches
    obtain ⟨n, result, hrun⟩ := h.of_reaches hreaches
    exact ⟨(h.of_reaches hreaches).turn, not_back_of_run hrun⟩
  · intro h
    -- among the states on the way, going on is well founded: it is transitive, and no state comes back
    let behind : { t // ReflTransGen (Goes body) s t } → { t // ReflTransGen (Goes body) s t } → Prop :=
      fun t u => TransGen (Goes body) u.1 t.1
    have : IsTrans _ behind := ⟨fun _ _ _ htu huv => huv.trans htu⟩
    have : Std.Irrefl behind := ⟨fun t => (h t.1 t.2).2⟩
    have hwf := Finite.wellFounded_of_trans_of_irrefl behind
    suffices hends : ∀ t : { t // ReflTransGen (Goes body) s t }, Ends unfinished body t.1 from hends ⟨s, .refl⟩
    intro t
    induction t using hwf.induction with
    | _ t ih =>
        refine ends_of_turns (h t.1 t.2).1 fun u hgoes => ?_
        exact ih ⟨u, t.2.tail hgoes⟩ (.single hgoes)

/-- **The same for a relation that says how a loop goes on** wherever its turns do not fail. -/
theorem ends_iff_of_steps [Finite σ] {steps : σ → σ → Prop} (hsteps : ∀ s t, Goes body s t → steps s t)
    (hgoes : ∀ s t turn, body s = .ok turn → steps s t → Goes body s t) : Ends unfinished body s ↔
    ∀ t, ReflTransGen steps s t → (∃ turn, body t = .ok turn) ∧ ¬ TransGen steps t t := by
  rw [ends_iff]
  constructor
  · intro h
    have hreaches : ∀ t, ReflTransGen steps s t → ReflTransGen (Goes body) s t := by
      intro t ht
      induction ht with
      | refl => exact .refl
      | tail _ hstep ih =>
          obtain ⟨turn, hturn⟩ := (h _ ih).1
          exact ih.tail (hgoes _ _ turn hturn hstep)
    intro t ht
    refine ⟨(h t (hreaches t ht)).1, fun hback => ?_⟩
    refine (h t (hreaches t ht)).2 ?_
    have hclosed : ∀ u, TransGen steps t u → TransGen (Goes body) t u := by
      intro u hu
      induction hu with
      | single hstep =>
          obtain ⟨turn, hturn⟩ := (h t (hreaches t ht)).1
          exact .single (hgoes _ _ turn hturn hstep)
      | tail hu hstep ih =>
          obtain ⟨turn, hturn⟩ := (h _ (hreaches _ (ht.trans hu.to_reflTransGen))).1
          exact ih.tail (hgoes _ _ turn hturn hstep)
    exact hclosed t hback
  · intro h t ht
    obtain ⟨hturn, hback⟩ := h t (ReflTransGen.mono hsteps s t ht)
    exact ⟨hturn, fun hgo => hback (TransGen.mono hsteps t t hgo)⟩

end Lib.Loops
