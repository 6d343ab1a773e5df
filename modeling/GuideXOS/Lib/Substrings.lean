import Mathlib.Data.List.Infix

/-!
# `Substrings` — searching a text for a marked name

`find?` is the first place where a needle occurs. Needles here begin with a mark, as the segments of a path do, and a
text without the mark neither holds such a needle nor the beginning of one (`marked_infix_append`). What ends a segment
ends the search for a name in it (`prefix_append_cons`).
-/

namespace Lib.Substrings

variable {α : Type _}

section Search
variable [DecidableEq α]

/-- Where a needle first occurs. -/
def find? (needle : List α) : List α → Option Nat
  | [] => if needle = [] then some 0 else none
  | c :: rest => if needle <+: c :: rest then some 0 else (find? needle rest).map (· + 1)

theorem find?_of_prefix {needle text : List α} (h : needle <+: text) : find? needle text = some 0 := by
  cases text with
  | nil =>
      rw [List.prefix_nil] at h
      exact if_pos h
  | cons c rest => exact if_pos h

/-- A needle is found if and only if it occurs. -/
theorem find?_isSome_iff {needle text : List α} : (find? needle text).isSome ↔ needle <:+: text := by
  induction text with
  | nil =>
      rw [find?, List.infix_nil]
      split <;> simp_all
  | cons c rest ih =>
      rw [find?, List.infix_cons_iff]
      by_cases hleads : needle <+: c :: rest
      · rw [if_pos hleads]
        simp [hleads]
      · rw [if_neg hleads, Option.isSome_map, ih]
        simp [hleads]

/-- A marked needle is found where the first mark stands. -/
theorem find?_marked {mark : α} {name before after : List α} (hbefore : mark ∉ before)
    (hafter : mark :: name <+: after) : find? (mark :: name) (before ++ after) = some before.length := by
  induction before with
  | nil => exact find?_of_prefix hafter
  | cons c before ih =>
      obtain ⟨hc, hrest⟩ := List.ne_and_not_mem_of_not_mem_cons hbefore
      have hne : ¬ mark :: name <+: c :: (before ++ after) := fun h => hc (List.cons_prefix_cons.mp h).1
      rw [List.cons_append, find?, if_neg hne, ih hrest]
      rfl

end Search

/-- A text without the mark holds no marked needle. -/
theorem marked_infix_append {mark : α} {name before after : List α} (h : mark ∉ before) :
    mark :: name <:+: before ++ after ↔ mark :: name <:+: after := by
  induction before with
  | nil => rw [List.nil_append]
  | cons c before ih =>
      obtain ⟨hc, hrest⟩ := List.ne_and_not_mem_of_not_mem_cons h
      rw [List.cons_append, List.infix_cons_iff, ih hrest]
      refine ⟨fun hor => hor.elim (fun hleads => ?_) id, .inr⟩
      exact absurd (List.cons_prefix_cons.mp hleads).1 hc

/-- At a mark, the name may follow. -/
theorem marked_infix_cons {mark : α} {name after : List α} :
    mark :: name <:+: mark :: after ↔ name <+: after ∨ mark :: name <:+: after := by
  rw [List.infix_cons_iff, List.prefix_cons_inj]

/-- A name ends before what is not in it. -/
theorem prefix_append_cons {name before after : List α} {stop : α} (h : stop ∉ name) :
    name <+: before ++ stop :: after ↔ name <+: before := by
  induction before generalizing name with
  | nil =>
      cases name with
      | nil => simp
      | cons c name =>
          obtain ⟨hc, -⟩ := List.ne_and_not_mem_of_not_mem_cons h
          rw [List.nil_append, List.cons_prefix_cons, List.prefix_nil]
          exact ⟨fun hand => absurd hand.1.symm hc, fun hnil => nomatch hnil⟩
  | cons b before ih =>
      cases name with
      | nil => simp
      | cons c name =>
          obtain ⟨-, hname⟩ := List.ne_and_not_mem_of_not_mem_cons h
          rw [List.cons_append, List.cons_prefix_cons, List.cons_prefix_cons, ih hname]

/-- A needle lies on one side of what is not in it. -/
theorem infix_append_cons {needle before after : List α} {stop : α} (h : stop ∉ needle) :
    needle <:+: before ++ stop :: after ↔ needle <:+: before ∨ needle <:+: after := by
  induction before with
  | nil =>
      rw [List.nil_append, List.infix_cons_iff, List.infix_nil]
      have hnil : needle <+: [] ++ stop :: after ↔ needle <+: [] := prefix_append_cons h
      refine or_congr_left ?_
      rw [← List.prefix_nil, ← hnil, List.nil_append]
  | cons c before ih =>
      rw [List.cons_append, List.infix_cons_iff, ih, List.infix_cons_iff, ← List.cons_append,
        prefix_append_cons h, or_assoc]

end Lib.Substrings
