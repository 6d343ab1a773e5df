import Mathlib.Data.List.Chain

/-!
# `Merging` — tables whose first match is updated and whose neighbours are merged

Two operations on a list kept as a table. `updateFirst` changes the first element with a property and leaves the
rest alone. `mergeFrom` goes through the list once and merges an element into the one before it as long as the two
join; what is neither joined nor merged is kept in order (`filter_mergeFrom`), and so is a relation between
earlier and later elements that merging respects (`pairwise_mergeFrom`). Neighbours that are left do not join
(`isChain_mergeFrom`).
-/

namespace Lib.Merging

variable {α : Type _} {r : α → α → Prop} {p : α → Bool} {l : List α}

/-! ## The first match -/

/-- The list with `f` applied to the first element for which `p` holds. -/
def updateFirst (p : α → Bool) (f : α → α) : List α → List α
  | [] => []
  | a :: l => if p a then f a :: l else a :: updateFirst p f l

/-- The first match splits the list, and the update changes nothing else. -/
theorem updateFirst_split {f : α → α} {a : α} (h : l.find? p = some a) :
    ∃ pre post, l = pre ++ a :: post ∧ updateFirst p f l = pre ++ f a :: post := by
  induction l with
  | nil => cases h
  | cons b l ih =>
      rw [List.find?_cons] at h
      rw [updateFirst]
      cases hb : p b with
      | true =>
          rw [hb] at h
          obtain rfl := Option.some.inj h
          exact ⟨[], l, rfl, if_pos rfl⟩
      | false =>
          rw [hb] at h
          obtain ⟨pre, post, rfl, hupdate⟩ := ih h
          exact ⟨b :: pre, post, rfl, by rw [if_neg (by decide), hupdate]; rfl⟩

/-- Other elements stay. -/
theorem mem_updateFirst {f : α → α} {a : α} (ha : a ∈ l) (hp : p a = false) : a ∈ updateFirst p f l := by
  induction l with
  | nil => cases ha
  | cons b l ih =>
      rw [updateFirst]
      split
      · rename_i hb
        rcases List.mem_cons.mp ha with rfl | ha
        · rw [hp] at hb
          cases hb
        · exact List.mem_cons_of_mem _ ha
      · rcases List.mem_cons.mp ha with rfl | ha
        · exact List.mem_cons_self
        · exact List.mem_cons_of_mem _ (ih ha)

/-- An update that keeps the relation of its element to the others keeps the relation of the list. -/
theorem pairwise_replace {pre post : List α} {a a' : α} (hleft : ∀ x, r x a → r x a') (hright : ∀ x, r a x → r a' x)
    (h : (pre ++ a :: post).Pairwise r) : (pre ++ a' :: post).Pairwise r := by
  obtain ⟨hpre, hpost, hcross⟩ := List.pairwise_append.mp h
  obtain ⟨hfirst, hrest⟩ := List.pairwise_cons.mp hpost
  refine List.pairwise_append.mpr ⟨hpre, List.pairwise_cons.mpr ⟨fun x hx => hright x (hfirst x hx), hrest⟩, ?_⟩
  intro x hx y hy
  rcases List.mem_cons.mp hy with rfl | hy
  · exact hleft x (hcross x hx a List.mem_cons_self)
  · exact hcross x hx y (List.mem_cons_of_mem _ hy)

/-! ## Neighbours -/

variable (joins : α → α → Bool) (merge : α → α → α)

/-- `a` followed by the list, with neighbours that join merged from the left. -/
def mergeFrom (a : α) : List α → List α
  | [] => [a]
  | b :: l => if joins a b then mergeFrom (merge a b) l else a :: mergeFrom b l

variable {joins merge}

/-- **What does not join** is kept. -/
theorem filter_mergeFrom (hjoins : ∀ a b, joins a b = true → p a = false ∧ p b = false ∧ p (merge a b) = false)
    (a : α) (l : List α) : (mergeFrom joins merge a l).filter p = (a :: l).filter p := by
  induction l generalizing a with
  | nil => rfl
  | cons b l ih =>
      rw [mergeFrom]
      split
      · rename_i hab
        obtain ⟨ha, hb, hmerge⟩ := hjoins a b hab
        rw [ih, List.filter_cons_of_neg (by simp [hmerge]), List.filter_cons_of_neg (by simp [ha]),
          List.filter_cons_of_neg (by simp [hb])]
      · rw [List.filter_cons, ih, ← List.filter_cons]

/-- **Order.** A relation that a merged element inherits from its parts is kept, together with a property of the
    elements. -/
theorem pairwise_mergeFrom {P : α → Prop} (hmerge : ∀ a b, P a → P b → r a b → joins a b = true → P (merge a b))
    (hright : ∀ a b c, P a → P b → joins a b = true → r b c → r (merge a b) c) {a : α} (hP : ∀ b ∈ a :: l, P b)
    (hr : (a :: l).Pairwise r) (hleft : ∀ x a b, r x a → joins a b = true → r x (merge a b)) :
    (∀ b ∈ mergeFrom joins merge a l, P b) ∧ (mergeFrom joins merge a l).Pairwise r ∧
      ∀ x, r x a → (∀ b ∈ l, r x b) → ∀ b ∈ mergeFrom joins merge a l, r x b := by
  induction l generalizing a with
  | nil => exact ⟨hP, hr, fun x hx _ => List.forall_mem_singleton.mpr hx⟩
  | cons b l ih =>
      obtain ⟨ha, hb, hl⟩ : P a ∧ P b ∧ ∀ c ∈ l, P c := by
        obtain ⟨ha, hrest⟩ := List.forall_mem_cons.mp hP
        exact ⟨ha, List.forall_mem_cons.mp hrest⟩
      obtain ⟨hra, hrl⟩ := List.pairwise_cons.mp hr
      obtain ⟨hab, hal⟩ := List.forall_mem_cons.mp hra
      obtain ⟨hrb, hrest⟩ := List.pairwise_cons.mp hrl
      rw [mergeFrom]
      split
      · rename_i hjoin
        have hnew := hmerge a b ha hb hab hjoin
        obtain ⟨hmem, hpair, hbefore⟩ := ih (List.forall_mem_cons.mpr ⟨hnew, hl⟩)
          (List.pairwise_cons.mpr ⟨fun c hc => hright a b c ha hb hjoin (hrb c hc), hrest⟩)
        refine ⟨hmem, hpair, fun x hx hall => ?_⟩
        exact hbefore x (hleft x a b hx hjoin) (List.forall_mem_cons.mp hall).2
      · obtain ⟨hmem, hpair, hbefore⟩ := ih (List.forall_mem_cons.mpr ⟨hb, hl⟩) hrl
        refine ⟨List.forall_mem_cons.mpr ⟨ha, hmem⟩, List.pairwise_cons.mpr ⟨hbefore a hab hal, hpair⟩, ?_⟩
        intro x hx hall
        obtain ⟨hxb, hxl⟩ := List.forall_mem_cons.mp hall
        exact List.forall_mem_cons.mpr ⟨hx, hbefore x hxb hxl⟩

/-- **Neighbours** that are left do not join. -/
theorem isChain_mergeFrom (hjoins : ∀ a b c, joins b c = true → joins a (merge b c) = joins a b) (a : α) (l : List α) :
    (mergeFrom joins merge a l).IsChain fun b c => joins b c = false := by
  have hhead : ∀ x a l, joins x a = false → ∀ b ∈ (mergeFrom joins merge a l).head?, joins x b = false := by
    intro x a l hx
    induction l generalizing a with
    | nil => simpa [mergeFrom] using hx
    | cons b l ih =>
        rw [mergeFrom]
        split
        · rename_i hab
          exact ih _ ((hjoins x a b hab).trans hx)
        · simpa using hx
  induction l generalizing a with
  | nil => exact List.isChain_singleton a
  | cons b l ih =>
      rw [mergeFrom]
      split
      · exact ih _
      · rename_i hab
        exact List.isChain_cons.mpr ⟨hhead a b l (by simpa using hab), ih b⟩

/-- A change of one element that keeps its relation to its neighbours. -/
theorem isChain_replace {pre post : List α} {a a' : α} (hleft : ∀ x, r x a → r x a') (hright : ∀ x, r a x → r a' x)
    (h : (pre ++ a :: post).IsChain r) : (pre ++ a' :: post).IsChain r := by
  rw [List.isChain_append, List.isChain_cons] at h ⊢
  obtain ⟨hpre, ⟨hhead, hpost⟩, hcross⟩ := h
  refine ⟨hpre, ⟨fun x hx => hright x (hhead x hx), hpost⟩, fun x hx y hy => ?_⟩
  obtain rfl : a' = y := by simpa using hy
  exact hleft x (hcross x hx a (by simp))

end Lib.Merging
