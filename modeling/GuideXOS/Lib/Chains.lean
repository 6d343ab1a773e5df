import Mathlib.Data.List.Perm.Subperm

/-!
# `Chains` — values kept as changes to the values of other keys

A key holds a value of its own (`root`), or a change to the value of another key (`link`). A key has a value when
the keys it leads through, one after another, end in one that holds its own (`Value`). `follow` walks there with a
bound on the steps: where links lead to keys of lower rank, a walk ends within one step more than there are links
(`follow_terminates`).
-/

namespace Lib

structure Chains (κ α δ : Type _) where
  root : κ → Option α
  link : κ → Option (κ × δ)

namespace Chains

variable {κ α δ : Type _} (apply : α → δ → α)

/-- The value of a key whose chain is all there. -/
inductive Value (c : Chains κ α δ) : κ → α → Prop
  | root {k : κ} {a : α} : c.root k = some a → Value c k a
  | link {k p : κ} {x : δ} {a : α} : c.root k = none → c.link k = some (p, x) → Value c p a → Value c k (apply a x)

/-- What walking up to `n` keys finds: `none` where the walk is not over by then, `some none` where it ends in a
    key that holds nothing. -/
def follow (c : Chains κ α δ) : Nat → κ → Option (Option α)
  | 0, _ => none
  | n + 1, k =>
      match c.root k with
      | some a => some (some a)
      | none =>
          match c.link k with
          | none => some none
          | some (p, x) => (follow c n p).map (Option.map (apply · x))

variable {apply} {c c' : Chains κ α δ} {k : κ} {a : α} {n : Nat}

theorem Value.unique {b : α} (h : Value apply c k a) (h' : Value apply c k b) : a = b := by
  induction h generalizing b with
  | root hroot =>
      cases h' with
      | root hroot' => exact Option.some.inj (hroot.symm.trans hroot')
      | link hnone => cases hroot.symm.trans hnone
  | link hroot hlink _ ih =>
      cases h' with
      | root hroot' => cases hroot.symm.trans hroot'
      | link _ hlink' hp =>
          obtain ⟨rfl, rfl⟩ := Prod.mk.inj (Option.some.inj (hlink.symm.trans hlink'))
          rw [ih hp]

theorem follow_of_value (h : Value apply c k a) {r : Option α} (hr : follow apply c n k = some r) : r = some a := by
  induction h generalizing n r with
  | root hroot =>
      cases n with
      | zero => cases hr
      | succ n =>
          rw [follow, hroot] at hr
          exact (Option.some.inj hr).symm
  | link hroot hlink _ ih =>
      cases n with
      | zero => cases hr
      | succ n =>
          rw [follow, hroot, hlink] at hr
          obtain ⟨r', hr', rfl⟩ := Option.map_eq_some_iff.mp hr
          rw [ih hr']
          rfl

theorem value_of_follow (h : follow apply c n k = some (some a)) : Value apply c k a := by
  induction n generalizing k a with
  | zero => cases h
  | succ n ih =>
      rw [follow] at h
      cases hroot : c.root k with
      | some a' =>
          rw [hroot] at h
          obtain rfl := Option.some.inj (Option.some.inj h)
          exact .root hroot
      | none =>
          rw [hroot] at h
          cases hlink : c.link k with
          | none =>
              rw [hlink] at h
              cases h
          | some px =>
              rw [hlink] at h
              obtain ⟨r, hr, hmap⟩ := Option.map_eq_some_iff.mp h
              obtain ⟨b, rfl, rfl⟩ := Option.map_eq_some_iff.mp hmap
              exact .link hroot hlink (ih hr)

/-- **A chain seen elsewhere.** Keys of a set that links do not leave have the value they have in a store that
    answers for them alike. -/
theorem Value.transfer {P : κ → Prop} (hroot : ∀ k a, P k → c'.root k = some a → c.root k = some a)
    (hlink : ∀ k p x, P k → c'.root k = none → c'.link k = some (p, x) →
      c.root k = none ∧ c.link k = some (p, x) ∧ P p)
    (h : Value apply c' k a) (hk : P k) : Value apply c k a := by
  induction h with
  | root hr => exact .root (hroot _ _ hk hr)
  | link hr hl _ ih =>
      obtain ⟨hr', hl', hp⟩ := hlink _ _ _ hk hr hl
      exact .link hr' hl' (ih hp)

/-- The keys walked through so far are different, and there are no more of them than links. -/
theorem follow_within {keys : List κ} (hkeys : ∀ k p x, c.link k = some (p, x) → k ∈ keys) (rank : κ → Nat)
    (hrank : ∀ k p x, c.link k = some (p, x) → rank p < rank k) (visited : List κ) (hnodup : visited.Nodup)
    (hvisited : ∀ v ∈ visited, rank k < rank v ∧ v ∈ keys) (hn : keys.length + 1 ≤ n + visited.length) :
    follow apply c n k ≠ none := by
  induction n generalizing k visited with
  | zero =>
      have hle := (List.subperm_of_subset hnodup fun v hv => (hvisited v hv).2).length_le
      omega
  | succ n ih =>
      rw [follow]
      cases hroot : c.root k with
      | some a => exact Option.some_ne_none _
      | none =>
          cases hlink : c.link k with
          | none => exact Option.some_ne_none _
          | some px =>
              obtain ⟨p, x⟩ := px
              have hlower := hrank k p x hlink
              have hfresh : k ∉ visited := fun hk => Nat.lt_irrefl _ (hvisited k hk).1
              have hrest := ih (k := p) (k :: visited) (List.nodup_cons.mpr ⟨hfresh, hnodup⟩)
                (List.forall_mem_cons.mpr ⟨⟨hlower, hkeys k p x hlink⟩, fun v hv =>
                  ⟨Nat.lt_trans hlower (hvisited v hv).1, (hvisited v hv).2⟩⟩)
                (by rw [List.length_cons]; omega)
              dsimp only
              intro hnone
              exact hrest (Option.map_eq_none_iff.mp hnone)

/-- **Walks end.** -/
theorem follow_terminates (apply : α → δ → α) {keys : List κ} (hkeys : ∀ k p x, c.link k = some (p, x) → k ∈ keys)
    (rank : κ → Nat)
    (hrank : ∀ k p x, c.link k = some (p, x) → rank p < rank k) (k : κ) :
    ∃ r, follow apply c (keys.length + 1) k = some r :=
  Option.ne_none_iff_exists'.mp
    (follow_within hkeys rank hrank [] List.nodup_nil (fun v hv => by cases hv) (Nat.le_refl _))

end Chains

end Lib
