import Mathlib.Algebra.GroupWithZero.Nat
import Mathlib.Data.List.FinRange

/-!
# `Deltas` — differences of two tables or sequences, and their replay

A delta lists what differs between an old value and a new one; replaying it over the old value is meant to give
the new one. For a table indexed by a finite type the delta is the list of the entries that differ, and what
replaying writes can be observed entry by entry (`observe_replay`). For a sequence it is the list of the
stretches that differ, and replaying them gives the new sequence as far as both reach (`replay_differences`).
-/

namespace Lib.Deltas

/-! ## A value -/

section Value
variable {α : Type _} [DecidableEq α]

/-- The new value, where it differs from the old one. -/
def changedTo (new old : α) : Option α := if new = old then none else some new

@[simp] theorem changedTo_getD (new old : α) : (changedTo new old).getD old = new := by
  unfold changedTo
  split
  · next h => exact h.symm
  · rfl

end Value

/-! ## A table -/

section Table
variable {n : Nat} {α β σ : Type _}

/-- The entries in which two tables differ, in index order. -/
def changed [DecidableEq α] (new old : Fin n → α) : List (Fin n × α) :=
  (List.finRange n).filterMap fun i => if new i = old i then none else some (i, new i)

def replay (set : σ → Fin n → α → σ) (s : σ) (entries : List (Fin n × α)) : σ :=
  entries.foldl (fun s e => set s e.1 e.2) s

variable [DecidableEq α]

theorem observe_entries {set : σ → Fin n → α → σ} {new old : Fin n → α} {obs : σ → Fin n → β} {written : Fin n → β}
    (hself : ∀ s i, new i ≠ old i → obs (set s i (new i)) i = written i)
    (hne : ∀ s i j, i ≠ j → obs (set s i (new i)) j = obs s j) {indices : List (Fin n)} (hnodup : indices.Nodup)
    (s : σ) (j : Fin n) :
    obs (replay set s (indices.filterMap fun i => if new i = old i then none else some (i, new i))) j =
      if j ∈ indices ∧ new j ≠ old j then written j else obs s j := by
  induction indices generalizing s with
  | nil => simp [replay]
  | cons i indices ih =>
      obtain ⟨hi, hrest⟩ := List.nodup_cons.mp hnodup
      by_cases hsame : new i = old i
      · rw [List.filterMap_cons_none (by simp [hsame]), ih hrest]
        by_cases hij : j = i
        · subst hij
          simp [hi, hsame]
        · simp [hij]
      · rw [List.filterMap_cons_some (b := (i, new i)) (by simp [hsame])]
        show obs (replay set (set s i (new i)) _) j = _
        rw [ih hrest]
        by_cases hij : j = i
        · subst hij
          simp [hi, hsame, hself s j hsame]
        · simp [hij, hne s i j (Ne.symm hij)]

/-- **Replaying the entries that differ**, seen through an observation of each entry: an entry that differs was
    written, any other is what it was. -/
theorem observe_replay (set : σ → Fin n → α → σ) (new old : Fin n → α) (obs : σ → Fin n → β) (written : Fin n → β)
    (hself : ∀ s i, new i ≠ old i → obs (set s i (new i)) i = written i)
    (hne : ∀ s i j, i ≠ j → obs (set s i (new i)) j = obs s j) (s : σ) (j : Fin n) :
    obs (replay set s (changed new old)) j = if new j = old j then obs s j else written j := by
  rw [changed, observe_entries hself hne (List.nodup_finRange n)]
  by_cases h : new j = old j <;> simp [h]

end Table

/-! ## A sequence -/

section Sequence
variable {α : Type _}

/-- A stretch of items, and where it lies. -/
structure Change (α : Type _) where
  address : Nat
  data : List α
  deriving DecidableEq

/-- The items `[i, j)` of a sequence. -/
def slice (l : List α) (i j : Nat) : List α := (l.drop i).take (j - i)

/-- The stretches of `new` in which the pairs differ, from position `i` on; `start` is where the stretch that is
    open at `i` began. -/
def scan [DecidableEq α] (new : List α) : List (α × α) → Nat → Option Nat → List (Change α)
  | [], _, none => []
  | [], i, some start => [⟨start, slice new start i⟩]
  | p :: rest, i, start =>
      if p.1 ≠ p.2 then scan new rest (i + 1) (some (start.getD i))
      else
        match start with
        | some start => ⟨start, slice new start i⟩ :: scan new rest (i + 1) none
        | none => scan new rest (i + 1) none

/-- A change laid over a sequence, which is padded up to its end first. -/
def overlay (pad : α) (l : List α) (c : Change α) : List α :=
  let l := if l.length < c.address + c.data.length then
      l ++ List.replicate (c.address + c.data.length - l.length) pad
    else l
  l.take c.address ++ c.data ++ l.drop (c.address + c.data.length)

theorem overlay_of_fits {pad : α} {l : List α} {c : Change α} (h : c.address + c.data.length ≤ l.length) :
    overlay pad l c = l.take c.address ++ c.data ++ l.drop (c.address + c.data.length) := by
  unfold overlay
  rw [if_neg (by omega)]

/-- The new sequence up to `i`, the old one from there on. -/
def splice (new old : List α) (i : Nat) : List α := new.take i ++ old.drop i

variable {new old : List α} {i j : Nat} {pad : α} {rest : List (α × α)}

theorem length_splice (hnew : i ≤ new.length) (hold : i ≤ old.length) : (splice new old i).length = old.length := by
  simp [splice, hnew, hold]

theorem splice_succ (hnew : i < new.length) (hold : i < old.length) (h : new[i] = old[i]) :
    splice new old i = splice new old (i + 1) := by
  unfold splice
  rw [List.drop_eq_getElem_cons hold, ← h, List.take_succ_eq_append_getElem hnew, List.append_assoc]
  rfl

/-- Closing a stretch moves the seam to its end. -/
theorem overlay_splice (hij : i ≤ j) (hnew : j ≤ new.length) (hold : j ≤ old.length) :
    overlay pad (splice new old i) ⟨i, slice new i j⟩ = splice new old j := by
  have hdata : (slice new i j).length = j - i := by
    simp [slice]
    omega
  have htake : (new.take i).length = i := by
    rw [List.length_take]
    omega
  have hfits : i + (slice new i j).length ≤ (splice new old i).length := by
    rw [hdata, length_splice (by omega) (by omega)]
    omega
  rw [overlay_of_fits hfits]
  dsimp only
  rw [hdata]
  have hhead : (splice new old i).take i = new.take i := by
    rw [splice, List.take_append_of_le_length (by omega), List.take_of_length_le (by omega)]
  have htail : (splice new old i).drop (i + (j - i)) = old.drop j := by
    rw [splice, List.drop_append, List.drop_eq_nil_of_le (by omega), htake, List.drop_drop, List.nil_append]
    congr 1
    omega
  have hmid : new.take i ++ slice new i j = new.take j := by
    have h : j = i + (j - i) := by omega
    conv_rhs => rw [h, List.take_add]
    rfl
  rw [hhead, htail, hmid]
  rfl

/-- The pair in hand is the one at its position. -/
theorem pair_at {p : α × α} (hrest : p :: rest = (new.zip old).drop i) :
    i < (new.zip old).length ∧ new[i]? = some p.1 ∧ old[i]? = some p.2 ∧ rest = (new.zip old).drop (i + 1) := by
  have hlt : i < (new.zip old).length := by
    by_contra hge
    rw [List.drop_eq_nil_of_le (Nat.le_of_not_lt hge)] at hrest
    cases hrest
  rw [List.drop_eq_getElem_cons hlt] at hrest
  obtain ⟨hp, hrest⟩ := List.cons.inj hrest
  have hat : (new.zip old)[i]? = some p := by rw [List.getElem?_eq_getElem hlt, hp]
  obtain ⟨hnew, hold⟩ := List.getElem?_zip_eq_some.mp hat
  exact ⟨hlt, hnew, hold, hrest⟩

/-- With no pair left the position is behind the last one. -/
theorem end_of_pairs (hrest : [] = (new.zip old).drop i) (hi : i ≤ (new.zip old).length) :
    i = (new.zip old).length := by
  have hle : (new.zip old).length ≤ i := List.drop_eq_nil_iff.mp hrest.symm
  exact Nat.le_antisymm hi hle

/-- **The scan.** Replayed from the start of the open stretch, the stretches found give the new sequence to the
    end of the pairs. -/
theorem foldl_scan [DecidableEq α] (start : Option Nat) (hrest : rest = (new.zip old).drop i)
    (hi : i ≤ (new.zip old).length) (hstart : ∀ s ∈ start, s ≤ i) :
    (scan new rest i start).foldl (overlay pad) (splice new old (start.getD i)) =
      splice new old (new.zip old).length := by
  have hlen : (new.zip old).length = min new.length old.length := List.length_zip
  induction rest generalizing i start with
  | nil =>
      have hend := end_of_pairs hrest hi
      rw [← hend]
      cases start with
      | none => rfl
      | some s => exact overlay_splice (hstart s rfl) (by omega) (by omega)
  | cons p rest ih =>
      obtain ⟨hlt, hnew, hold, hrest⟩ := pair_at hrest
      unfold scan
      by_cases hne : p.1 ≠ p.2
      · -- the stretch goes on, or one begins here: the seam stays where it began
        rw [if_pos hne]
        have hs : start.getD i ≤ i := by
          cases start with
          | none => exact Nat.le_refl i
          | some s => exact hstart s rfl
        exact ih _ hrest hlt fun s hs' => Option.some.inj hs' ▸ Nat.le_succ_of_le hs
      · -- equal items: an open stretch is closed here, and the seam moves behind the pair
        rw [if_neg hne]
        have hsame : new[i] = old[i] := by
          rw [List.getElem?_eq_getElem (by omega)] at hnew hold
          rw [Option.some.inj hnew, Option.some.inj hold]
          exact Decidable.not_not.mp hne
        have hnext : (scan new rest (i + 1) none).foldl (overlay pad) (splice new old (i + 1)) =
            splice new old (new.zip old).length := ih none hrest hlt fun s hs => by cases hs
        cases start with
        | none =>
            show (scan new rest (i + 1) none).foldl (overlay pad) (splice new old i) = _
            rw [splice_succ (by omega) (by omega) hsame]
            exact hnext
        | some s =>
            show (scan new rest (i + 1) none).foldl (overlay pad)
              (overlay pad (splice new old s) ⟨s, slice new s i⟩) = _
            rw [overlay_splice (hstart s rfl) (by omega) (by omega), splice_succ (by omega) (by omega) hsame]
            exact hnext

/-- What is new beyond the old sequence goes to its end. -/
theorem overlay_rest (h : old.length ≤ new.length) :
    overlay pad (splice new old old.length) ⟨old.length, new.drop old.length⟩ = new := by
  have hsplice : splice new old old.length = new.take old.length := by
    rw [splice, List.drop_length, List.append_nil]
  have hlen : (new.take old.length).length = old.length := by
    rw [List.length_take]
    omega
  have hdata : (new.drop old.length).length = new.length - old.length := List.length_drop
  have htotal : old.length + (new.length - old.length) = new.length := by omega
  unfold overlay
  dsimp only
  rw [hsplice, hlen, hdata, htotal]
  split
  · have hpadded : (new.take old.length ++ List.replicate (new.length - old.length) pad).length ≤ new.length := by
      rw [List.length_append, List.length_replicate, hlen]
      omega
    rw [List.drop_eq_nil_of_le hpadded, List.append_nil, List.take_append_of_le_length hlen.ge,
      List.take_of_length_le hlen.le, List.take_append_drop]
  · have hall : (new.take old.length).length ≤ new.length := by omega
    rw [List.drop_eq_nil_of_le hall, List.append_nil, List.take_of_length_le hlen.le, List.take_append_drop]

/-- **Replaying the differences.** The new sequence as far as it reaches, then what the old one has beyond. -/
theorem replay_differences [DecidableEq α] (pad : α) (new old : List α) :
    (scan new (new.zip old) 0 none).foldl (overlay pad) old = splice new old (min new.length old.length) := by
  have h : (scan new (new.zip old) 0 none).foldl (overlay pad) old = splice new old (new.zip old).length :=
    foldl_scan none rfl (Nat.zero_le _) fun s hs => by cases hs
  rwa [List.length_zip] at h

/-! ## What a scan records -/

section Recorded

/-- One stretch of the new sequence, not empty, with no item the old sequence has at the same place. -/
structure OnlyDiffering (new old : List α) (c : Change α) : Prop where
  nonempty : c.data ≠ []
  data : ∀ k < c.data.length, c.data[k]? = new[c.address + k]?
  differs : ∀ k < c.data.length, new[c.address + k]? ≠ old[c.address + k]?

/-- How many pairs have different sides. -/
def differences [DecidableEq α] (pairs : List (α × α)) : Nat := pairs.countP fun p => p.1 ≠ p.2

/-- The items of a list of changes. -/
def recorded (changes : List (Change α)) : Nat := (changes.map (·.data.length)).sum

@[simp] theorem recorded_cons (c : Change α) (changes : List (Change α)) :
    recorded (c :: changes) = c.data.length + recorded changes := by
  simp [recorded]

@[simp] theorem recorded_append (a b : List (Change α)) : recorded (a ++ b) = recorded a + recorded b := by
  simp [recorded]

theorem length_slice (l : List α) (hj : j ≤ l.length) : (slice l i j).length = j - i := by
  simp [slice]
  omega

theorem getElem?_slice (l : List α) {k : Nat} (hk : k < j - i) : (slice l i j)[k]? = l[i + k]? := by
  rw [slice, List.getElem?_take_of_lt hk, List.getElem?_drop]

theorem onlyDiffering_slice (hij : i < j) (hj : j ≤ new.length)
    (hdiffers : ∀ k, i ≤ k → k < j → new[k]? ≠ old[k]?) : OnlyDiffering new old ⟨i, slice new i j⟩ where
  nonempty := by
    intro hnil
    have hlen := length_slice new (i := i) hj
    rw [show slice new i j = [] from hnil, List.length_nil] at hlen
    omega
  data := by
    intro k hk
    rw [length_slice new hj] at hk
    exact getElem?_slice new hk
  differs := by
    intro k hk
    rw [length_slice new hj] at hk
    exact hdiffers (i + k) (by omega) (by omega)

theorem onlyDiffering_rest (h : old.length < new.length) :
    OnlyDiffering new old ⟨old.length, new.drop old.length⟩ where
  nonempty := by
    intro hnil
    have hlen := congrArg List.length hnil
    rw [List.length_drop, List.length_nil] at hlen
    omega
  data := by
    intro k _
    exact List.getElem?_drop
  differs := by
    intro k hk heq
    change k < (new.drop old.length).length at hk
    change new[old.length + k]? = old[old.length + k]? at heq
    rw [List.length_drop] at hk
    rw [List.getElem?_eq_none (l := old) (Nat.le_add_right _ k), List.getElem?_eq_none_iff] at heq
    omega

/-- What holds of the stretch that is open at position `i`: it began before, and all of it differs. -/
def Open (new old : List α) (i : Nat) (start : Option Nat) : Prop :=
  ∀ s ∈ start, s < i ∧ ∀ k, s ≤ k → k < i → new[k]? ≠ old[k]?

/-- An open stretch that reaches a differing pair goes on behind it; none that was open begins there. -/
theorem Open.extend {start : Option Nat} (hopen : Open new old i start) (hne : new[i]? ≠ old[i]?) :
    Open new old (i + 1) (some (start.getD i)) := by
  intro s hs
  obtain rfl := Option.some.inj hs
  cases start with
  | none =>
      refine ⟨Nat.lt_succ_self i, fun k hik hk => ?_⟩
      obtain rfl : k = i := Nat.le_antisymm (Nat.le_of_lt_succ hk) hik
      exact hne
  | some s =>
      obtain ⟨hlt, hdiffers⟩ := hopen s rfl
      refine ⟨Nat.lt_succ_of_lt hlt, fun k hsk hk => ?_⟩
      rcases Nat.lt_succ_iff_lt_or_eq.mp hk with hlt' | rfl
      · exact hdiffers k hsk hlt'
      · exact hne

/-- The stretch that an open one is when it is closed at `i`. -/
theorem Open.close {s : Nat} (hopen : Open new old i (some s)) (hi : i ≤ new.length) :
    OnlyDiffering new old ⟨s, slice new s i⟩ ∧ s < i ∧ s + (slice new s i).length = i := by
  obtain ⟨hs, hdiffers⟩ := hopen s rfl
  refine ⟨onlyDiffering_slice hs hi hdiffers, hs, ?_⟩
  rw [length_slice new hi]
  exact Nat.add_sub_cancel' hs.le

/-- **What a scan records.** Stretches of differing items within the pairs, in order, none touching the next, and
    as many items as the open stretch has and pairs differ. -/
theorem scan_records [DecidableEq α] (new old : List α) (start : Option Nat) (hrest : rest = (new.zip old).drop i)
    (hi : i ≤ (new.zip old).length) (hopen : Open new old i start) :
    (∀ c ∈ scan new rest i start, OnlyDiffering new old c ∧ start.getD i ≤ c.address ∧
        c.address + c.data.length ≤ (new.zip old).length) ∧
      (scan new rest i start).Pairwise (fun a b => a.address + a.data.length < b.address) ∧
      recorded (scan new rest i start) = (i - start.getD i) + differences rest := by
  have hlen : (new.zip old).length = min new.length old.length := List.length_zip
  induction rest generalizing i start with
  | nil =>
      have hend := end_of_pairs hrest hi
      cases start with
      | none => simp [scan, recorded, differences]
      | some s =>
          obtain ⟨honly, hs, hdata⟩ := hopen.close (by omega)
          refine ⟨?_, List.pairwise_singleton _ _, ?_⟩
          · intro c hc
            obtain rfl := List.mem_singleton.mp hc
            exact ⟨honly, Nat.le_refl s, hdata.le.trans hi⟩
          · show (slice new s i).length + 0 = (i - s) + 0
            omega
  | cons p rest ih =>
      obtain ⟨hlt, hnew, hold, hrest⟩ := pair_at hrest
      unfold scan
      by_cases hne : p.1 ≠ p.2
      · -- nothing is recorded yet: one item more is in the open stretch
        have hdiffers : new[i]? ≠ old[i]? := by
          rw [hnew, hold]
          exact fun h => hne (Option.some.inj h)
        have hstart : start.getD i ≤ i := by
          cases start with
          | none => exact Nat.le_refl i
          | some s => exact (hopen s rfl).1.le
        obtain ⟨hall, hpairs, hsum⟩ := ih (some (start.getD i)) hrest hlt (hopen.extend hdiffers)
        rw [if_pos hne]
        refine ⟨hall, hpairs, ?_⟩
        have hcount : differences (p :: rest) = differences rest + 1 := by simp [differences, hne]
        rw [hsum, hcount, Option.getD_some]
        omega
      · have hcount : differences (p :: rest) = differences rest := by
          simp [differences, Decidable.not_not.mp hne]
        obtain ⟨hall, hpairs, hsum⟩ := ih none hrest hlt (fun s hs => nomatch hs)
        rw [Option.getD_none, Nat.sub_self, Nat.zero_add] at hsum
        rw [if_neg hne, hcount]
        cases start with
        | none =>
            rw [Option.getD_none, Nat.sub_self, Nat.zero_add]
            refine ⟨fun c hc => ?_, hpairs, hsum⟩
            obtain ⟨hc, hle, hend⟩ := hall c hc
            exact ⟨hc, Nat.le_of_succ_le hle, hend⟩
        | some s =>
            obtain ⟨honly, hs, hdata⟩ := hopen.close (by omega)
            refine ⟨?_, ?_, ?_⟩
            · intro c hc
              rcases List.mem_cons.mp hc with rfl | hc
              · exact ⟨honly, Nat.le_refl s, hdata.le.trans hi⟩
              · obtain ⟨hc, hle, hend⟩ := hall c hc
                exact ⟨hc, Nat.le_trans (Nat.le_succ_of_le hs.le) hle, hend⟩
            · -- what is found later begins behind the equal pair that closed this stretch
              refine List.pairwise_cons.mpr ⟨fun c hc => ?_, hpairs⟩
              obtain ⟨-, hle, -⟩ := hall c hc
              show s + (slice new s i).length < c.address
              rw [Option.getD_none] at hle
              omega
            · rw [recorded_cons, hsum, Option.getD_some]
              show (slice new s i).length + differences rest = (i - s) + differences rest
              omega

end Recorded

end Sequence

end Lib.Deltas
