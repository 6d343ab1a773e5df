import Mathlib.Data.Set.BooleanAlgebra
import Mathlib.Order.CompletePartialOrder

/-!
# `Slots` — a table whose slots cover sets of points

A table is seen here as a family `cover : ι → Set κ`: which points each slot answers for. A lookup takes
the first slot that covers the point, so its answer is determined by the family alone exactly when no
point is covered twice (`Exclusive`). The lemmas say what rewriting one slot, or shrinking every slot,
does to that property, and what a first-match scan then finds.
-/

namespace Lib.Slots

variable {ι κ : Type*}

/-- **No point is covered twice.** -/
def Exclusive (cover : ι → Set κ) : Prop := ∀ i j x, x ∈ cover i → x ∈ cover j → i = j

theorem exclusive_empty : Exclusive (fun _ : ι => (∅ : Set κ)) := fun _ _ _ hx => hx.elim

/-- Slots that give points up keep a table exclusive. -/
theorem Exclusive.mono {cover cover' : ι → Set κ} (h : Exclusive cover)
    (hsub : ∀ i, cover' i ⊆ cover i) : Exclusive cover' :=
  fun i j x hi hj => h i j x (hsub i hi) (hsub j hj)

/-- **Rewriting one slot.** The table stays exclusive exactly when the new contents of slot `s` meet no
    other slot. -/
theorem exclusive_rewrite_iff {cover cover' : ι → Set κ} {s : ι} (h : Exclusive cover)
    (hother : ∀ i, i ≠ s → cover' i = cover i) :
    Exclusive cover' ↔ ∀ i, i ≠ s → Disjoint (cover i) (cover' s) := by
  constructor
  · intro h' i hi
    refine Set.disjoint_left.mpr fun x hx hs => ?_
    exact hi (h' i s x (by rw [hother i hi]; exact hx) hs)
  · intro hdisj i j x hi hj
    by_cases his : i = s
    · by_cases hjs : j = s
      · rw [his, hjs]
      · rw [hother j hjs] at hj
        exact (Set.disjoint_left.mp (hdisj j hjs) hj (his ▸ hi)).elim
    · rw [hother i his] at hi
      by_cases hjs : j = s
      · exact (Set.disjoint_left.mp (hdisj i his) hi (hjs ▸ hj)).elim
      · rw [hother j hjs] at hj
        exact h i j x hi hj

/-! ## First-match scans -/

/-- A search for something only one element satisfies finds that element. -/
theorem find?_of_unique {slots : List ι} {p : ι → Bool} {s : ι} (hmem : s ∈ slots) (hs : p s = true)
    (huniq : ∀ i, p i = true → i = s) : slots.find? p = some s := by
  cases hfind : slots.find? p with
  | none => exact absurd hs (List.find?_eq_none.mp hfind s hmem)
  | some t => rw [huniq t (List.find?_some hfind)]

/-- In an exclusive table the first slot covering a point is the only one. -/
theorem find?_of_exclusive {cover : ι → Set κ} (h : Exclusive cover) {slots : List ι} {p : ι → Bool}
    {x : κ} (hp : ∀ i, p i = true ↔ x ∈ cover i) {s : ι} (hmem : s ∈ slots) (hs : x ∈ cover s) :
    slots.find? p = some s :=
  find?_of_unique hmem ((hp s).mpr hs) fun i hi => h i s x ((hp i).mp hi) hs

/-- **A scan with a fallback.** It stops at the first slot that satisfies `p`, and keeps the first slot
    that satisfies `q` in case there is none. -/
def scan (p q : ι → Bool) : List ι → Option ι → Option ι
  | [], kept => kept
  | i :: is, kept =>
      if p i then some i
      else scan p q is (if q i && kept.isNone then some i else kept)

theorem scan_eq_find? (p q : ι → Bool) (slots : List ι) (kept : Option ι) :
    scan p q slots kept = (slots.find? p).or (kept.or (slots.find? q)) := by
  induction slots generalizing kept with
  | nil => cases kept <;> rfl
  | cons i is ih =>
      unfold scan
      rw [List.find?_cons, List.find?_cons]
      cases hp : p i with
      | true => rfl
      | false =>
          rw [if_neg (by simp), ih]
          cases kept <;> cases hq : q i <;> rfl

end Lib.Slots
