import Mathlib.Algebra.BigOperators.Group.Finset.Piecewise
import Mathlib.Data.Fintype.Basic

/-!
# `Tallies` — what is charged to keys, and the trail of moves between them

Two books about something that is at one key at a time. A tally has an account for some of the keys, and `total_charge`
is what a charge does to the sum of all accounts. A trail lists the moves that were made: each starts where the one
before it ended, and the last one ends where one is now.
-/

namespace Lib.Tallies

/-! ## Tallies -/

section Tally
variable {κ G : Type _} [DecidableEq κ]

/-- Accounts for some of the keys. -/
abbrev Tally (κ G : Type _) := κ → Option G

namespace Tally

/-- No accounts. -/
def empty : Tally κ G := fun _ => none

section Operations
variable [Add G] [Zero G]

variable (t : Tally κ G)

/-- What was charged to a key. -/
def charged (k : κ) : G := (t k).getD 0

def charge (k : κ) (x : G) : Tally κ G := Function.update t k (some (t.charged k + x))

/-- What an account shows while `x` is outstanding for the key one is at; where there is no account there is nothing
    to show. -/
def shown (here : κ) (x : G) (k : κ) : G :=
  match t k with
  | none => 0
  | some accumulated => if here = k then accumulated + x else accumulated

end Operations

variable [AddCommMonoid G] {t : Tally κ G} {k here : κ} {x : G}

theorem charged_charge (l : κ) : (t.charge k x).charged l = t.charged l + if l = k then x else 0 := by
  unfold charge charged
  by_cases h : l = k
  · subst h
    simp
  · simp [h]

theorem shown_eq (l : κ) :
    t.shown here x l = t.charged l + if l = here then (if (t here).isSome then x else 0) else 0 := by
  unfold shown charged
  by_cases h : l = here
  · subst h
    cases t l <;> simp
  · have hne : ¬ here = l := fun hl => h hl.symm
    cases t l <;> simp [h, hne]

variable [Fintype κ]

def total (t : Tally κ G) : G := ∑ k, t.charged k

omit [DecidableEq κ] in
@[simp] theorem total_empty : total (empty : Tally κ G) = 0 := Finset.sum_eq_zero fun _ _ => rfl

/-- **A charge** adds to the total. -/
theorem total_charge : (t.charge k x).total = t.total + x := by
  simp only [total, charged_charge, Finset.sum_add_distrib, Finset.sum_ite_eq', Finset.mem_univ, if_true]

/-- **What all accounts show** is the total, and what is outstanding if there is an account for it. -/
theorem sum_shown : ∑ l, t.shown here x l = t.total + if (t here).isSome then x else 0 := by
  simp only [shown_eq, Finset.sum_add_distrib, Finset.sum_ite_eq', Finset.mem_univ, if_true, total]

end Tally
end Tally

/-! ## Trails -/

section Trail
variable {ρ σ : Type _} {source target : ρ → σ} {records : List ρ} {here : σ}

/-- Each move starts where the one before it ended; the last one ended `here`. -/
structure Trail (source target : ρ → σ) (records : List ρ) (here : σ) : Prop where
  linked : records.IsChain fun a b => target a = source b
  last : ∀ r ∈ records.getLast?, target r = here

theorem Trail.nil : Trail source target [] here := ⟨.nil, fun _ h => nomatch h⟩

/-- **A move** from here goes on the trail. -/
theorem Trail.snoc (h : Trail source target records here) {r : ρ} (hr : source r = here) :
    Trail source target (records ++ [r]) (target r) := by
  constructor
  · refine List.isChain_append.mpr ⟨h.linked, .singleton r, ?_⟩
    intro a ha b hb
    obtain rfl := Option.some.inj hb
    rw [h.last a ha, hr]
  · intro a ha
    rw [List.getLast?_concat] at ha
    obtain rfl := Option.some.inj ha
    rfl

/-- The first move may be forgotten. -/
theorem Trail.tail (h : Trail source target records here) : Trail source target records.tail here := by
  cases records with
  | nil => exact h
  | cons r records =>
      refine ⟨h.linked.tail, ?_⟩
      intro a ha
      cases records with
      | nil => cases ha
      | cons s records => exact h.last a ha

/-- So may the first of the records that are kept, moves or not. -/
theorem Trail.filter_tail {p : ρ → Bool} (h : Trail source target (records.filter p) here) :
    Trail source target (records.tail.filter p) here := by
  cases records with
  | nil => exact h
  | cons r records =>
      rw [List.tail_cons]
      by_cases hr : p r = true
      · rw [List.filter_cons_of_pos hr] at h
        exact h.tail
      · rwa [List.filter_cons_of_neg hr] at h

/-- **Jumping** elsewhere keeps the trail exactly if there are no moves, or the last one ended there. -/
theorem Trail.jump_iff (h : Trail source target records here) {there : σ} :
    Trail source target records there ↔ records = [] ∨ here = there := by
  constructor
  · intro hthere
    rcases List.eq_nil_or_concat' records with hnil | ⟨rest, r, rfl⟩
    · exact .inl hnil
    · have hr : r ∈ (rest ++ [r]).getLast? := by simp
      exact .inr ((h.last r hr).symm.trans (hthere.last r hr))
  · rintro (rfl | rfl)
    · exact .nil
    · exact h

end Trail

end Lib.Tallies
