import GuideXOS.Lib.Fallible
import GuideXOS.Lib.Patches

/-!
# `Bounds` — computations that read a buffer

A computation over a buffer ends in a value, in an exception of its own, or outside the buffer. It is in bounds if it
does not end outside (`InBounds`). A sequence is in bounds if every step that is reached is (`inBounds_bind`), a loop if
every turn that is reached is (`inBounds_loop`).
-/

namespace Lib.Bounds

/-- What ends a computation early. -/
inductive Fault (ε : Type _) where
  | outside
  | threw (e : ε)
  deriving DecidableEq

abbrev Checked (ε α : Type _) := Except (Fault ε) α

variable {ε ε' α β σ ρ : Type _} {bytes data : List UInt8} {x : Checked ε α} {offset : Nat}

/-- A computation whose exceptions are passed on as others. -/
def rethrow (f : ε → ε') (x : Checked ε α) : Checked ε' α :=
  x.mapError fun fault =>
    match fault with
    | .outside => .outside
    | .threw e => .threw (f e)

/-- `n` bytes from `offset` on. -/
def fetch (bytes : List UInt8) (offset n : Nat) : Checked ε (List UInt8) :=
  if n = 0 ∨ offset + n ≤ bytes.length then .ok ((bytes.drop offset).take n) else .error .outside

/-- The bytes with others written over them from `offset` on. -/
def store (bytes : List UInt8) (offset : Nat) (data : List UInt8) : Checked ε (List UInt8) :=
  if data = [] ∨ offset + data.length ≤ bytes.length then .ok (Patches.Patch.apply bytes ⟨offset, data⟩)
  else .error .outside

def InBounds (x : Checked ε α) : Prop := x ≠ .error .outside

/-- How a computation ended, for one that is run. -/
def isOutside : Checked ε α → Bool
  | .error .outside => true
  | _ => false

def isThrown : Checked ε α → Bool
  | .error (.threw _) => true
  | _ => false

theorem not_inBounds_of_isOutside (h : isOutside x = true) : ¬ InBounds x := by
  intro hin
  unfold isOutside at h
  split at h
  · exact hin rfl
  · cases h

@[simp] theorem inBounds_ok (a : α) : InBounds (.ok a : Checked ε α) := by
  intro h
  cases h

@[simp] theorem inBounds_threw (e : ε) : InBounds (.error (.threw e) : Checked ε α) := by
  intro h
  cases h

theorem fetch_ok {n : Nat} (h : offset + n ≤ bytes.length) :
    (fetch bytes offset n : Checked ε _) = .ok ((bytes.drop offset).take n) := if_pos (.inr h)

theorem fetch_bind {n : Nat} (h : offset + n ≤ bytes.length) {f : List UInt8 → Checked ε α} :
    (fetch bytes offset n >>= f) = f ((bytes.drop offset).take n) := by
  rw [fetch_ok h]
  rfl

@[simp] theorem inBounds_fetch {n : Nat} :
    InBounds (fetch bytes offset n : Checked ε _) ↔ n = 0 ∨ offset + n ≤ bytes.length := by
  unfold fetch
  split
  · exact iff_of_true (inBounds_ok _) ‹_›
  · exact iff_of_false (fun h => h rfl) ‹_›

@[simp] theorem inBounds_store :
    InBounds (store bytes offset data : Checked ε _) ↔ data = [] ∨ offset + data.length ≤ bytes.length := by
  unfold store
  split
  · exact iff_of_true (inBounds_ok _) ‹_›
  · exact iff_of_false (fun h => h rfl) ‹_›

theorem store_ok (h : offset + data.length ≤ bytes.length) :
    (store bytes offset data : Checked ε _) = .ok (Patches.Patch.apply bytes ⟨offset, data⟩) := if_pos (.inr h)

theorem length_of_store {bytes' : List UInt8} (h : (store bytes offset data : Checked ε _) = .ok bytes') :
    bytes'.length = bytes.length := by
  unfold store at h
  split at h
  · obtain rfl := Except.ok.inj h
    exact Patches.Patch.length_apply ‹_›
  · cases h

/-- **A sequence** is in bounds if each step that is reached is. -/
theorem inBounds_bind {f : α → Checked ε β} : InBounds (x >>= f) ↔ InBounds x ∧ ∀ a, x = .ok a → InBounds (f a) := by
  cases x with
  | ok a => simp
  | error e =>
      constructor
      · intro h
        exact ⟨fun he => h (by cases he; rfl), fun a ha => by cases ha⟩
      · intro h he
        exact h.1 (by cases he; rfl)

@[simp] theorem inBounds_map {f : α → β} : InBounds (x.map f) ↔ InBounds x := by
  cases x with
  | ok a => exact iff_of_true (inBounds_ok _) (inBounds_ok _)
  | error e => exact ⟨fun h he => h (by cases he; rfl), fun h he => h (by cases he; rfl)⟩

@[simp] theorem inBounds_rethrow {f : ε → ε'} : InBounds (rethrow f x) ↔ InBounds x := by
  cases x with
  | ok a => exact iff_of_true (inBounds_ok _) (inBounds_ok _)
  | error e =>
      cases e with
      | outside => exact iff_of_false (fun h => h rfl) (fun h => h rfl)
      | threw e => exact iff_of_true (inBounds_threw _) (inBounds_threw _)

theorem rethrow_eq_ok {f : ε → ε'} {a : α} : rethrow f x = .ok a ↔ x = .ok a :=
  Fallible.mapError_eq_ok

/-! ## What is returned -/

/-- The computation is in bounds, and what it returns has a property. -/
def Returns (P : α → Prop) (x : Checked ε α) : Prop := InBounds x ∧ ∀ a, x = .ok a → P a

section Returns
variable {P : α → Prop} {Q : β → Prop}

theorem returns_ok {a : α} (h : P a) : Returns P (.ok a : Checked ε α) := by
  refine ⟨inBounds_ok a, fun b hb => ?_⟩
  obtain rfl := Except.ok.inj hb
  exact h

theorem returns_bind {f : α → Checked ε β} (hx : Returns P x) (hf : ∀ a, P a → Returns Q (f a)) :
    Returns Q (x >>= f) := by
  refine ⟨inBounds_bind.mpr ⟨hx.1, fun a ha => (hf a (hx.2 a ha)).1⟩, fun b hb => ?_⟩
  obtain ⟨a, ha, hb⟩ := Fallible.bind_eq_ok.mp hb
  exact (hf a (hx.2 a ha)).2 b hb

theorem returns_map {f : α → β} (hx : Returns P x) (hf : ∀ a, P a → Q (f a)) : Returns Q (x.map f) := by
  refine ⟨inBounds_map.mpr hx.1, fun b hb => ?_⟩
  obtain ⟨a, ha, rfl⟩ := Fallible.map_eq_ok.mp hb
  exact hf a (hx.2 a ha)

theorem returns_store (h : offset + data.length ≤ bytes.length) :
    Returns (fun bytes' => bytes'.length = bytes.length) (store bytes offset data : Checked ε _) :=
  ⟨inBounds_store.mpr (.inr h), fun _ hstore => length_of_store hstore⟩

end Returns

/-! ## Loops -/

/-- A turn of a loop goes on to the next one or leaves the loop. -/
inductive Turn (σ ρ : Type _) where
  | next (s : σ)
  | leave (r : ρ)

/-- The turns `i`, `i + 1`, … of a loop that has `n` turns left. -/
def loop (body : Nat → σ → Checked ε (Turn σ ρ)) (last : σ → ρ) : Nat → Nat → σ → Checked ε ρ
  | 0, _, s => .ok (last s)
  | n + 1, i, s =>
      body i s >>= fun turn =>
        match turn with
        | .next s => loop body last n (i + 1) s
        | .leave r => .ok r

section Loop
variable {body : Nat → σ → Checked ε (Turn σ ρ)} {last : σ → ρ} {Goes Safe : Nat → Prop} {i : Nat} {s : σ} {n : Nat}
  {r : ρ}

theorem loop_succ : loop body last (n + 1) i s = body i s >>= fun turn =>
    match turn with
    | .next s => loop body last n (i + 1) s
    | .leave r => .ok r := rfl

/-- **A loop** whose turns go on or not whatever the state is in bounds if every turn that is reached is. -/
theorem inBounds_loop (hsafe : ∀ i s, InBounds (body i s) ↔ Safe i)
    (hgoes : ∀ i s, Safe i → ((∃ s', body i s = .ok (.next s')) ↔ Goes i)) :
    InBounds (loop body last n i s) ↔ ∀ k < n, (∀ j < k, Goes (i + j)) → Safe (i + k) := by
  induction n generalizing i s with
  | zero => exact iff_of_true (inBounds_ok _) (fun k hk => absurd hk (Nat.not_lt_zero k))
  | succ n ih =>
      rw [loop_succ, inBounds_bind, hsafe]
      constructor
      · rintro ⟨hfirst, hrest⟩ k hk hreached
        cases k with
        | zero => exact hfirst
        | succ k =>
            obtain ⟨s', hs'⟩ := (hgoes i s hfirst).mpr (hreached 0 (Nat.succ_pos k))
            have htail := ih.mp (hrest _ hs') k (Nat.lt_of_succ_lt_succ hk) fun j hj => by
              rw [Nat.add_right_comm]
              exact hreached (j + 1) (Nat.succ_lt_succ hj)
            rwa [Nat.add_right_comm] at htail
      · intro h
        have hfirst : Safe i := h 0 (Nat.succ_pos n) fun j hj => absurd hj (Nat.not_lt_zero j)
        refine ⟨hfirst, fun turn hturn => ?_⟩
        cases turn with
        | leave r => exact inBounds_ok r
        | next s' =>
            refine ih.mpr fun k hk hreached => ?_
            have hall := h (k + 1) (Nat.succ_lt_succ hk) fun j hj => by
              cases j with
              | zero => exact (hgoes i s hfirst).mp ⟨s', hturn⟩
              | succ j =>
                  have hgo := hreached j (Nat.lt_of_succ_lt_succ hj)
                  rwa [Nat.add_right_comm] at hgo
            rwa [Nat.add_right_comm]

/-- A loop from its first turn on. -/
theorem inBounds_loop_zero (hsafe : ∀ i s, InBounds (body i s) ↔ Safe i)
    (hgoes : ∀ i s, Safe i → ((∃ s', body i s = .ok (.next s')) ↔ Goes i)) :
    InBounds (loop body last n 0 s) ↔ ∀ i < n, (∀ j < i, Goes j) → Safe i := by
  have hloop : InBounds (loop body last n 0 s) ↔ ∀ k < n, (∀ j < k, Goes (0 + j)) → Safe (0 + k) :=
    inBounds_loop hsafe hgoes
  simpa only [Nat.zero_add] using hloop

/-- **What every turn preserves** holds behind the last one. -/
theorem loop_invariant {Inv : Nat → σ → Prop}
    (hstep : ∀ i s s', Inv i s → body i s = .ok (.next s') → Inv (i + 1) s') (hinit : Inv i s)
    (h : loop body last n i s = .ok r) : (∃ j s', body j s' = .ok (.leave r)) ∨ ∃ s', r = last s' ∧ Inv (i + n) s' := by
  induction n generalizing i s with
  | zero => exact .inr ⟨s, (Except.ok.inj h).symm, hinit⟩
  | succ n ih =>
      obtain ⟨turn, hturn, h⟩ := Fallible.bind_eq_ok.mp h
      cases turn with
      | leave r' =>
          obtain rfl := Except.ok.inj h
          exact .inl ⟨i, s, hturn⟩
      | next s' =>
          rcases ih (hstep i s s' hinit hturn) h with hleave | ⟨s'', hr, hinv⟩
          · exact .inl hleave
          · refine .inr ⟨s'', hr, ?_⟩
            rwa [Nat.add_right_comm] at hinv

/-- The value of a loop comes from the turn that leaves it, or from behind its last turn. -/
theorem loop_ok (h : loop body last n i s = .ok r) :
    (∃ k < n, ∃ s', body (i + k) s' = .ok (.leave r) ∧ ∀ j < k, ∃ s s', body (i + j) s = .ok (.next s')) ∨
      (∃ s', r = last s') ∧ ∀ j < n, ∃ s s', body (i + j) s = .ok (.next s') := by
  induction n generalizing i s with
  | zero => exact .inr ⟨⟨s, (Except.ok.inj h).symm⟩, fun j hj => absurd hj (Nat.not_lt_zero j)⟩
  | succ n ih =>
      obtain ⟨turn, hturn, h⟩ := Fallible.bind_eq_ok.mp h
      cases turn with
      | leave r' =>
          obtain rfl := Except.ok.inj h
          exact .inl ⟨0, Nat.succ_pos n, s, hturn, fun j hj => absurd hj (Nat.not_lt_zero j)⟩
      | next s' =>
          have hgoes : ∀ {m : Nat}, (∀ j < m, ∃ s s', body (i + 1 + j) s = .ok (.next s')) →
              ∀ j < m + 1, ∃ s s', body (i + j) s = .ok (.next s') := by
            intro m hall j hj
            cases j with
            | zero => exact ⟨s, s', hturn⟩
            | succ j =>
                have hj := hall j (Nat.lt_of_succ_lt_succ hj)
                rwa [Nat.add_right_comm] at hj
          rcases ih h with ⟨k, hk, s₁, hleave, hbefore⟩ | ⟨hlast, hbefore⟩
          · rw [Nat.add_right_comm] at hleave
            exact .inl ⟨k + 1, Nat.succ_lt_succ hk, s₁, hleave, hgoes hbefore⟩
          · exact .inr ⟨hlast, hgoes hbefore⟩

/-- A loop that comes to a turn that leaves it. -/
theorem loop_eq_leave {k : Nat} (hk : k < n) (hgoes : ∀ j < k, ∀ s, ∃ s', body (i + j) s = .ok (.next s'))
    (hleave : ∀ s, body (i + k) s = .ok (.leave r)) : loop body last n i s = .ok r := by
  induction n generalizing i s k with
  | zero => exact absurd hk (Nat.not_lt_zero k)
  | succ n ih =>
      rw [loop_succ]
      cases k with
      | zero =>
          rw [show body i s = _ from hleave s]
          rfl
      | succ k =>
          obtain ⟨s', hs'⟩ := hgoes 0 (Nat.succ_pos k) s
          rw [show body i s = _ from hs']
          refine ih (Nat.lt_of_succ_lt_succ hk) (fun j hj s => ?_) (fun s => ?_)
          · rw [Nat.add_right_comm]
            exact hgoes (j + 1) (Nat.succ_lt_succ hj) s
          · rw [Nat.add_right_comm]
            exact hleave s

/-- A loop all of whose turns go on. -/
theorem loop_eq_last (hgoes : ∀ k < n, ∀ s, ∃ s', body (i + k) s = .ok (.next s')) :
    ∃ s', loop body last n i s = .ok (last s') := by
  induction n generalizing i s with
  | zero => exact ⟨s, rfl⟩
  | succ n ih =>
      obtain ⟨s', hs'⟩ := hgoes 0 (Nat.succ_pos n) s
      rw [loop_succ, show body i s = _ from hs']
      refine ih fun k hk s => ?_
      rw [Nat.add_right_comm]
      exact hgoes (k + 1) (Nat.succ_lt_succ hk) s

/-- **Where a loop ends**: at a turn that leaves it, which all earlier turns go on to, or behind its last turn. -/
theorem loop_ends (hgoes : ∀ i s, Safe i → ((∃ s', body i s = .ok (.next s')) ↔ Goes i))
    (hsafe : ∀ k < n, (∀ j < k, Goes j) → Safe k) (h : loop body last n 0 s = .ok r) :
    (∃ k < n, (∀ j < k, Goes j) ∧ ∃ s', body k s' = .ok (.leave r)) ∨ (∃ s', r = last s') ∧ ∀ j < n, Goes j := by
  have hall : ∀ k ≤ n, (∀ j < k, ∃ s s', body (0 + j) s = .ok (.next s')) → ∀ j < k, Goes j := by
    intro k hk hturns j
    induction j using Nat.strongRecOn with
    | _ j ih =>
        intro hj
        obtain ⟨s, s', hturn⟩ := hturns j hj
        rw [Nat.zero_add] at hturn
        exact (hgoes j s (hsafe j (by omega) fun j' hj' => ih j' hj' (by omega))).mp ⟨s', hturn⟩
  rcases loop_ok h with ⟨k, hk, s', hleave, hbefore⟩ | ⟨hlast, hbefore⟩
  · rw [Nat.zero_add] at hleave
    exact .inl ⟨k, hk, hall k (Nat.le_of_lt hk) hbefore, s', hleave⟩
  · exact .inr ⟨hlast, hall n (Nat.le_refl n) hbefore⟩

end Loop

end Lib.Bounds
