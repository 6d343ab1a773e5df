import GuideXOS.Lib.Fallible
import GuideXOS.Lib.Words

/-!
# `Stretches` — addresses located one by one, or a stretch at a time

An address is located by a translator that keeps a state of its own: it answers with a target and with the room
there is from the target on. A transfer that trusts the room locates only the first address of every stretch;
`each` locates every address by itself. The two agree where an address inside a stretch, located by itself, is
found right behind the address before it (`Seamless`): `each_stretch` splits `each` at the end of a stretch.
-/

namespace Lib.Stretches

variable {σ ε : Type _} (a : UInt64)

/-- Where an address lies, and how many addresses from it on lie behind one another. -/
structure Located where
  target : UInt64
  room : Nat
  deriving DecidableEq

/-- The addresses `a`, `a + 1`, … -/
def consecutive (a : UInt64) : Nat → List UInt64
  | 0 => []
  | n + 1 => a :: consecutive (a + 1) n

@[simp] theorem length_consecutive (n : Nat) : (consecutive a n).length = n := by
  induction n generalizing a with
  | zero => rfl
  | succ n ih => rw [consecutive, List.length_cons, ih]

theorem add_one_add (i : Nat) : a + 1 + UInt64.ofNat i = a + UInt64.ofNat (i + 1) := by
  rw [UInt64.ofNat_add, UInt64.add_assoc, UInt64.add_comm 1]
  rfl

theorem mem_consecutive {a x : UInt64} {n : Nat} : x ∈ consecutive a n ↔ ∃ i < n, x = a + UInt64.ofNat i := by
  induction n generalizing a with
  | zero => simp [consecutive]
  | succ n ih =>
      rw [consecutive, List.mem_cons, ih]
      constructor
      · rintro (rfl | ⟨i, hi, rfl⟩)
        · exact ⟨0, Nat.succ_pos n, (UInt64.add_zero x).symm⟩
        · exact ⟨i + 1, Nat.succ_lt_succ hi, add_one_add a i⟩
      · rintro ⟨i, hi, rfl⟩
        cases i with
        | zero => exact .inl (UInt64.add_zero a)
        | succ i => exact .inr ⟨i, Nat.lt_of_succ_lt_succ hi, (add_one_add a i).symm⟩

theorem getElem?_consecutive {n i : Nat} (hi : i < n) : (consecutive a n)[i]? = some (a + UInt64.ofNat i) := by
  induction n generalizing a i with
  | zero => omega
  | succ n ih =>
      rw [consecutive]
      cases i with
      | zero => exact congrArg some (UInt64.add_zero a).symm
      | succ i => rw [List.getElem?_cons_succ, ih (a + 1) (Nat.lt_of_succ_lt_succ hi), add_one_add]

variable (locate : σ → UInt64 → Except ε (Located × σ))

/-- Every address of a range located by itself, in order. -/
def each : σ → UInt64 → Nat → Except ε (List UInt64 × σ)
  | s, _, 0 => .ok ([], s)
  | s, a, n + 1 =>
      match locate s a with
      | .error e => .error e
      | .ok (l, s') => (each s' (a + 1) n).map fun r => (l.target :: r.1, r.2)

/-- In every stretch, an address located by itself is found right behind the one before it. -/
def Seamless : σ → UInt64 → Nat → Prop
  | _, _, 0 => True
  | s, a, n + 1 => ∀ l s', locate s a = .ok (l, s') →
      (n = 0 ∨ l.room = 1 ∨ locate s' (a + 1) = .ok (⟨l.target + 1, l.room - 1⟩, s')) ∧ Seamless s' (a + 1) n

variable {locate} {s s' : σ} {a : UInt64} {l : Located} {n k : Nat}

theorem each_of_error {e : ε} (h : locate s a = .error e) : each locate s a (n + 1) = .error e := by
  rw [each, h]

theorem each_of_ok (h : locate s a = .ok (l, s')) :
    each locate s a (n + 1) = (each locate s' (a + 1) n).map fun r => (l.target :: r.1, r.2) := by
  rw [each, h]

theorem map_map {α β γ : Type _} (x : Except ε α) (f : α → β) (g : β → γ) : (x.map f).map g = x.map (g ∘ f) := by
  cases x <;> rfl

/-- **One stretch.** The first `k` addresses of a seamless range, where the first has room for them, are found
    behind one another; the rest is located from the state the first one leaves. -/
theorem each_stretch (hl : locate s a = .ok (l, s')) (h : Seamless locate s a n) (hpos : 0 < k) (hkn : k ≤ n)
    (hroom : k ≤ l.room) :
    each locate s a n =
        (each locate s' (a + UInt64.ofNat k) (n - k)).map (fun r => (consecutive l.target k ++ r.1, r.2)) ∧
      Seamless locate s' (a + UInt64.ofNat k) (n - k) := by
  induction k generalizing s a l n with
  | zero => exact absurd hpos (Nat.lt_irrefl 0)
  | succ k ih =>
      obtain ⟨m, rfl⟩ : ∃ m, n = m + 1 := ⟨n - 1, by omega⟩
      obtain ⟨hnext, hrest⟩ := h l s' hl
      rw [each_of_ok hl, Nat.add_sub_add_right]
      rcases Nat.eq_zero_or_pos k with rfl | hk
      · exact ⟨rfl, hrest⟩
      · have hfollows : locate s' (a + 1) = .ok (⟨l.target + 1, l.room - 1⟩, s') := by
          rcases hnext with rfl | hone | hfollows
          · omega
          · omega
          · exact hfollows
        obtain ⟨heach, hseam⟩ := ih hfollows hrest hk (by omega) (by show k ≤ l.room - 1; omega)
        rw [add_one_add] at heach hseam
        rw [heach, map_map]
        exact ⟨rfl, hseam⟩

end Lib.Stretches
