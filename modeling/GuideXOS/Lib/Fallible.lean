/-!
# `Fallible` — reading back a computation that may throw

A sequence of fallible steps returned a value exactly when every step did. These lemmas peel such a
sequence apart one step at a time, without unfolding the steps.
-/

namespace Lib.Fallible

variable {ε ε' : Type _} {α β : Type _} {x : Except ε α}

@[simp] theorem ok_bind (a : α) (f : α → Except ε β) : (Except.ok a >>= f) = f a := rfl

@[simp] theorem pure_eq_ok (a : α) : (pure a : Except ε α) = .ok a := rfl

theorem bind_eq_ok {f : α → Except ε β} {b : β} : (x >>= f) = .ok b ↔ ∃ a, x = .ok a ∧ f a = .ok b := by
  cases x with
  | error e =>
      constructor
      · intro h
        cases h
      · rintro ⟨_, h, _⟩
        cases h
  | ok a =>
      constructor
      · exact fun h => ⟨a, rfl, h⟩
      · rintro ⟨a', ha, h⟩
        exact Except.ok.inj ha ▸ h

theorem map_eq_ok {f : α → β} {b : β} : x.map f = .ok b ↔ ∃ a, x = .ok a ∧ f a = b := by
  cases x <;> simp [Except.map]

theorem mapError_eq_ok {f : ε → ε'} {a : α} : x.mapError f = .ok a ↔ x = .ok a := by
  cases x with
  | error e =>
      constructor
      · intro h
        cases h
      · intro h
        cases h
  | ok b => exact ⟨fun h => congrArg Except.ok (Except.ok.inj h), fun h => congrArg Except.ok (Except.ok.inj h)⟩

/-- The value a computation is known to return, as a pair. -/
theorem eq_ok_pair {x : Except ε (α × β)} {h : x.toOption.isSome = true} {r : α × β}
    (hr : r = x.toOption.get h) : x = .ok (r.1, r.2) := by
  cases x with
  | error e => cases h
  | ok a => rw [hr]; rfl

/-- The values a list is mapped to, one by one. -/
theorem getElem?_of_mapM {f : α → Option β} {l : List α} {r : List β} (h : l.mapM f = some r) :
    r.length = l.length ∧ ∀ (i : Nat) (a : α), l[i]? = some a → ∃ b, f a = some b ∧ r[i]? = some b := by
  induction l generalizing r with
  | nil =>
      obtain rfl := Option.some.inj h
      exact ⟨rfl, fun i a ha => by cases ha⟩
  | cons a l ih =>
      rw [List.mapM_cons] at h
      obtain ⟨b, hb, h⟩ := Option.bind_eq_some_iff.mp h
      obtain ⟨bs, hbs, h⟩ := Option.bind_eq_some_iff.mp h
      obtain rfl := Option.some.inj h
      obtain ⟨hlen, hall⟩ := ih hbs
      refine ⟨congrArg Nat.succ hlen, fun i a' ha' => ?_⟩
      cases i with
      | zero =>
          obtain rfl := Option.some.inj ha'
          exact ⟨b, hb, rfl⟩
      | succ i => exact hall i a' ha'

end Lib.Fallible
