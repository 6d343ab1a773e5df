import Mathlib.Order.Lattice
import Mathlib.Data.List.Pairwise

/-!
# `OrdMap` — finite maps as key-sorted association lists

A map over linearly ordered keys is kept as the list of its entries in strictly increasing key order, so
two maps with the same entries are equal and iteration has one order. `emplace` adds a key that is not
there yet; replaying the entries of a map in iteration order rebuilds the map (`foldlM_entries`).
-/

namespace Lib

/-- A finite map: its entries, in strictly increasing key order. -/
structure OrdMap (κ : Type _) (ν : Type _) [LT κ] where
  entries : List (κ × ν)
  sorted : entries.Pairwise (·.1 < ·.1)

/-- Where no two elements have one key, each is found by its key. -/
theorem find?_of_distinct {α κ : Type _} [DecidableEq κ] {key : α → κ} {l : List α}
    (h : l.Pairwise fun a a' => key a ≠ key a') {a : α} (ha : a ∈ l) : l.find? (key · = key a) = some a := by
  induction l with
  | nil => exact absurd ha List.not_mem_nil
  | cons first l ih =>
      obtain ⟨hfirst, hl⟩ := List.pairwise_cons.mp h
      rcases List.mem_cons.mp ha with rfl | hrest
      · exact List.find?_cons_of_pos (decide_eq_true rfl)
      · rw [List.find?_cons_of_neg (by simpa using hfirst a hrest)]
        exact ih hl hrest

namespace OrdMap

variable {κ ν : Type _} [LinearOrder κ] {m : OrdMap κ ν} {k : κ} {es : List (κ × ν)}
  {into : OrdMap κ ν → κ × ν → Option (OrdMap κ ν)} {v : ν}

@[ext] theorem ext {m' : OrdMap κ ν} (h : m.entries = m'.entries) : m = m' := by
  cases m
  cases m'
  congr

def empty : OrdMap κ ν := ⟨[], List.Pairwise.nil⟩

def find? (m : OrdMap κ ν) (k : κ) : Option ν := (m.entries.find? (·.1 = k)).map (·.2)

def size (m : OrdMap κ ν) : Nat := m.entries.length

/-- Entries with the key placed, replacing an entry that has it. -/
def insertEntry (k : κ) (v : ν) : List (κ × ν) → List (κ × ν)
  | [] => [(k, v)]
  | e :: es =>
      if k < e.1 then (k, v) :: e :: es
      else if k = e.1 then (k, v) :: es
      else e :: insertEntry k v es

theorem key_insertEntry {p : κ → Prop} (hk : p k) (hes : ∀ e ∈ es, p e.1) : ∀ e ∈ insertEntry k v es, p e.1 := by
  induction es with
  | nil => simpa [insertEntry] using hk
  | cons e es ih =>
      obtain ⟨he, hrest⟩ := List.forall_mem_cons.mp hes
      unfold insertEntry
      split
      · exact List.forall_mem_cons.mpr ⟨hk, hes⟩
      · split
        · exact List.forall_mem_cons.mpr ⟨hk, hrest⟩
        · exact List.forall_mem_cons.mpr ⟨he, ih hrest⟩

theorem sorted_insertEntry (k : κ) (v : ν) (h : es.Pairwise (·.1 < ·.1)) :
    (insertEntry k v es).Pairwise (·.1 < ·.1) := by
  induction es with
  | nil => simp [insertEntry]
  | cons e es ih =>
      obtain ⟨he, hes⟩ := List.pairwise_cons.mp h
      unfold insertEntry
      split
      · next hlt =>
        refine List.pairwise_cons.mpr ⟨List.forall_mem_cons.mpr ⟨hlt, fun e' he' => ?_⟩, h⟩
        exact hlt.trans (he e' he')
      · next hnlt =>
        split
        · next heq =>
          subst heq
          exact List.pairwise_cons.mpr ⟨he, hes⟩
        · next hne =>
          have hgt : e.1 < k := lt_of_le_of_ne (not_lt.mp hnlt) (Ne.symm hne)
          exact List.pairwise_cons.mpr ⟨key_insertEntry hgt he, ih hes⟩

/-- `m[k] = v`. -/
def insert (m : OrdMap κ ν) (k : κ) (v : ν) : OrdMap κ ν :=
  ⟨insertEntry k v m.entries, sorted_insertEntry k v m.sorted⟩

def erase (m : OrdMap κ ν) (k : κ) : OrdMap κ ν :=
  ⟨m.entries.filter (·.1 ≠ k), m.sorted.filter _⟩

/-- `emplace`: `none` when the key is taken. -/
def emplace? (m : OrdMap κ ν) (k : κ) (v : ν) : Option (OrdMap κ ν) :=
  if m.entries.any (·.1 = k) then none else some (m.insert k v)

/-! ## Looking up -/

theorem find?_insertEntry (k k' : κ) (v : ν) (es : List (κ × ν)) :
    ((insertEntry k v es).find? (·.1 = k')).map (·.2) =
      if k = k' then some v else (es.find? (·.1 = k')).map (·.2) := by
  induction es with
  | nil => by_cases hk : k = k' <;> simp [insertEntry, hk]
  | cons e es ih =>
      unfold insertEntry
      split
      · by_cases hk : k = k' <;> simp [hk]
      · split
        · next heq =>
          by_cases hk : k = k'
          · simp [hk]
          · have he : ¬ e.1 = k' := heq ▸ hk
            simp [hk, he]
        · next hne =>
          by_cases he : e.1 = k'
          · have hk : ¬ k = k' := fun hk => hne (hk.trans he.symm)
            simp [hk, he]
          · rw [List.find?_cons_of_neg (by simpa using he), List.find?_cons_of_neg (by simpa using he)]
            exact ih

theorem find?_insert (m : OrdMap κ ν) (k k' : κ) (v : ν) :
    (m.insert k v).find? k' = if k = k' then some v else m.find? k' :=
  find?_insertEntry k k' v m.entries

theorem find?_insert_self (m : OrdMap κ ν) (k : κ) (v : ν) : (m.insert k v).find? k = some v := by
  rw [find?_insert, if_pos rfl]

theorem find?_insert_ne {k' : κ} (h : k' ≠ k) (m : OrdMap κ ν) (v : ν) : (m.insert k v).find? k' = m.find? k' := by
  rw [find?_insert, if_neg (Ne.symm h)]

theorem find?_erase (m : OrdMap κ ν) (k k' : κ) : (m.erase k).find? k' = if k = k' then none else m.find? k' := by
  unfold find? erase
  rw [List.find?_filter]
  by_cases hk : k = k'
  · subst hk
    rw [if_pos rfl]
    simp
  · rw [if_neg hk]
    congr 2
    funext e
    by_cases he : e.1 = k'
    · simp [he, Ne.symm hk]
    · simp [he]

theorem find?_eq_none_iff : m.find? k = none ↔ ∀ e ∈ m.entries, e.1 ≠ k := by
  unfold find?
  rw [Option.map_eq_none_iff, List.find?_eq_none]
  simp

theorem erase_of_find?_none (h : m.find? k = none) : m.erase k = m :=
  ext (List.filter_eq_self.mpr (by simpa using find?_eq_none_iff.mp h))

theorem filter_insertEntry (h : ∀ e ∈ es, e.1 ≠ k) : (insertEntry k v es).filter (·.1 ≠ k) = es := by
  induction es with
  | nil => simp [insertEntry]
  | cons e es ih =>
      obtain ⟨he, hes⟩ := List.forall_mem_cons.mp h
      have hself : es.filter (·.1 ≠ k) = es := List.filter_eq_self.mpr (by simpa using hes)
      unfold insertEntry
      split
      · rw [List.filter_cons_of_neg (by simp), List.filter_cons_of_pos (by simpa using he), hself]
      · rw [if_neg (Ne.symm he), List.filter_cons_of_pos (by simpa using he), ih hes]

/-- An entry that was only just placed can be taken out again without a trace. -/
theorem erase_insert (h : m.find? k = none) (v : ν) : (m.insert k v).erase k = m :=
  ext (filter_insertEntry (find?_eq_none_iff.mp h))

theorem emplace?_of_find?_none (h : m.find? k = none) (v : ν) : m.emplace? k v = some (m.insert k v) := by
  have hnot : ¬ m.entries.any (·.1 = k) = true := by
    simp only [List.any_eq_true, decide_eq_true_eq, not_exists, not_and]
    exact find?_eq_none_iff.mp h
  rw [emplace?, if_neg hnot]

theorem mem_keys_of_find? (h : m.find? k = some v) : k ∈ m.entries.map (·.1) := by
  obtain ⟨e, he, rfl⟩ := Option.map_eq_some_iff.mp h
  have hk : e.1 = k := by simpa using List.find?_some he
  exact List.mem_map.mpr ⟨e, List.mem_of_find?_eq_some he, hk⟩

/-! ## Replaying the entries of a map -/

/-- A key past the last one goes to the end. -/
theorem insertEntry_append (v : ν) (h : ∀ e ∈ es, e.1 < k) : insertEntry k v es = es ++ [(k, v)] := by
  induction es with
  | nil => rfl
  | cons e es ih =>
      obtain ⟨he, hes⟩ := List.forall_mem_cons.mp h
      rw [insertEntry, if_neg he.not_gt, if_neg he.ne', ih hes]
      rfl

theorem emplace?_last (v : ν) (h : ∀ e ∈ m.entries, e.1 < k) :
    ∃ m', m.emplace? k v = some m' ∧ m'.entries = m.entries ++ [(k, v)] := by
  refine ⟨m.insert k v, if_neg ?_, insertEntry_append v h⟩
  simp only [List.any_eq_true, decide_eq_true_eq, not_exists, not_and]
  exact fun e he => (h e he).ne

/-- `emplace` where nobody asks whether it did anything. -/
def emplace (m : OrdMap κ ν) (k : κ) (v : ν) : OrdMap κ ν := (m.emplace? k v).getD m

theorem emplace_of_emplace? {m' : OrdMap κ ν} (h : m.emplace? k v = some m') : m.emplace k v = m' := by
  rw [emplace, h]
  rfl

/-- **Replay.** Whatever puts new keys in as `emplace` does rebuilds a map from its entries. -/
theorem foldlM_sorted (hinto : ∀ m e m', m.emplace? e.1 e.2 = some m' → into m e = some m') (es : List (κ × ν))
    (h : (m.entries ++ es).Pairwise (·.1 < ·.1)) : ∃ m', es.foldlM into m = some m' ∧ m'.entries = m.entries ++ es := by
  induction es generalizing m with
  | nil => exact ⟨m, rfl, (List.append_nil _).symm⟩
  | cons e es ih =>
      have hlast : ∀ e' ∈ m.entries, e'.1 < e.1 := fun e' he' =>
        (List.pairwise_append.mp h).2.2 e' he' e List.mem_cons_self
      obtain ⟨m₁, hm₁, hent⟩ := emplace?_last e.2 hlast
      obtain ⟨m₂, hm₂, hent₂⟩ := ih (m := m₁) (by rw [hent, List.append_assoc]; exact h)
      refine ⟨m₂, ?_, by rw [hent₂, hent, List.append_assoc]; rfl⟩
      rw [List.foldlM_cons, hinto m e m₁ hm₁]
      exact hm₂

theorem foldlM_entries (hinto : ∀ m e m', m.emplace? e.1 e.2 = some m' → into m e = some m') (m : OrdMap κ ν) :
    m.entries.foldlM into empty = some m := by
  obtain ⟨m', hm', hent⟩ := foldlM_sorted hinto (m := empty) m.entries m.sorted
  rw [hm', ext hent]

end OrdMap

end Lib
