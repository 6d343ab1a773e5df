import Mathlib.Order.Basic

/-!
# `Stamps` — values handed out with a stamp

A value that changes over time is handed out together with a stamp, and a reader who holds a stamp takes it
for the value it came with. `Faithful` says that readers may do so: one stamp, one value. It follows from the
invariant `Current`, which bounds every stamp handed out by the present one; a change of the value keeps it
as long as the stamp goes up.
-/

namespace Lib.Stamps

variable {κ α : Type _} {reports : List (κ × α)} {stamp stamp' : κ} {value value' : α}

/-- One stamp stands for one value. -/
def Faithful (reports : List (κ × α)) : Prop :=
  ∀ r ∈ reports, ∀ r' ∈ reports, r.1 = r'.1 → r.2 = r'.2

/-- Nothing was handed out under a later stamp than the present one, nor anything else under the same. -/
def Current [LE κ] (reports : List (κ × α)) (stamp : κ) (value : α) : Prop :=
  ∀ r ∈ reports, r.1 ≤ stamp ∧ (r.1 = stamp → r.2 = value)

theorem Faithful.nil : Faithful ([] : List (κ × α)) := fun _ hr => absurd hr (List.not_mem_nil)

section Order
variable [PartialOrder κ]

theorem Current.nil : Current ([] : List (κ × α)) stamp value := fun _ hr => absurd hr (List.not_mem_nil)

/-- Whatever the value becomes, a later stamp is a new one. -/
theorem Current.advance (h : Current reports stamp value) (hlt : stamp < stamp') :
    Current reports stamp' value' := by
  intro r hr
  have hle := (h r hr).1
  refine ⟨hle.trans hlt.le, fun heq => ?_⟩
  rw [heq] at hle
  exact absurd hlt hle.not_gt

theorem Current.report (h : Current reports stamp value) : Current ((stamp, value) :: reports) stamp value := by
  intro r hr
  rcases List.mem_cons.mp hr with rfl | hr
  · exact ⟨le_rfl, fun _ => rfl⟩
  · exact h r hr

/-- **Handing out the present value** keeps one value to a stamp. -/
theorem Faithful.report (hf : Faithful reports) (h : Current reports stamp value) :
    Faithful ((stamp, value) :: reports) := by
  intro r hr r' hr' heq
  rcases List.mem_cons.mp hr with rfl | hr <;> rcases List.mem_cons.mp hr' with rfl | hr'
  · rfl
  · exact ((h r' hr').2 heq.symm).symm
  · exact (h r hr).2 heq
  · exact hf r hr r' hr' heq

end Order

end Lib.Stamps
