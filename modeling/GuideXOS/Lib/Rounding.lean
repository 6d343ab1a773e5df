import Mathlib.Algebra.Order.Field.Power
import Mathlib.Data.Int.Log
import Mathlib.Data.Nat.Size
import Mathlib.Data.Rat.Floor

/-!
# `Rounding` — binary numbers of bounded precision

The numbers that `p` significant bits can write, with any exponent, and the four directions of rounding to them. What
a rounding is is said by the numbers around it and not by how it is computed; `rounds` connects the two: a
positive integer times a power of two is rounded by dropping its low bits, and by adding one to what is left where the
dropped bits ask for it.
-/

namespace Lib.Rounding

/-- A number that `p` significant bits can write. -/
def Representable (p : ℕ) (y : ℚ) : Prop := ∃ (m : ℤ) (e : ℤ), |m| < 2 ^ p ∧ y = m * 2 ^ e

/-- Normalised to `p` bits it ends with a zero. -/
def LastBitZero (p : ℕ) (y : ℚ) : Prop :=
  ∃ (m : ℤ) (e : ℤ), 2 ^ (p - 1) ≤ |m| ∧ |m| < 2 ^ p ∧ Even m ∧ y = m * 2 ^ e

inductive Direction
  | nearest | towardZero | up | down
  deriving DecidableEq, Repr

/-- The direction as it is seen from the other sign. -/
def Direction.flip : Direction → Direction
  | .up => .down
  | .down => .up
  | d => d

/-- The greatest representable number not above. -/
def RoundsDown (p : ℕ) (x y : ℚ) : Prop :=
  Representable p y ∧ y ≤ x ∧ ∀ z, Representable p z → z ≤ x → z ≤ y

/-- The least representable number not below. -/
def RoundsUp (p : ℕ) (x y : ℚ) : Prop :=
  Representable p y ∧ x ≤ y ∧ ∀ z, Representable p z → x ≤ z → y ≤ z

/-- The closest representable number; of two, the one that ends with a zero. -/
def RoundsNearest (p : ℕ) (x y : ℚ) : Prop :=
  Representable p y ∧ ∀ z, Representable p z → z ≠ y →
    |x - y| < |x - z| ∨ (|x - y| = |x - z| ∧ LastBitZero p y ∧ ¬ LastBitZero p z)

/-- **`y` is `x` rounded** to `p` bits. -/
def Rounds (p : ℕ) : Direction → ℚ → ℚ → Prop
  | .nearest, x, y => RoundsNearest p x y
  | .towardZero, x, y => (0 ≤ x → RoundsDown p x y) ∧ (x ≤ 0 → RoundsUp p x y)
  | .up, x, y => RoundsUp p x y
  | .down, x, y => RoundsDown p x y

variable {p : ℕ} {x y z : ℚ} {d : Direction}

/-! ## Both signs -/

theorem Representable.neg (h : Representable p y) : Representable p (-y) := by
  obtain ⟨m, e, hm, rfl⟩ := h
  refine ⟨-m, e, by rwa [abs_neg], ?_⟩
  push_cast
  ring

theorem LastBitZero.neg (h : LastBitZero p y) : LastBitZero p (-y) := by
  obtain ⟨m, e, hlo, hhi, heven, rfl⟩ := h
  refine ⟨-m, e, by rwa [abs_neg], by rwa [abs_neg], heven.neg, ?_⟩
  push_cast
  ring

theorem lastBitZero_neg_iff : LastBitZero p (-y) ↔ LastBitZero p y :=
  ⟨fun h => neg_neg y ▸ h.neg, LastBitZero.neg⟩

theorem RoundsDown.neg (h : RoundsDown p x y) : RoundsUp p (-x) (-y) := by
  obtain ⟨hy, hle, hgreatest⟩ := h
  refine ⟨hy.neg, neg_le_neg hle, fun z hz hxz => ?_⟩
  exact neg_le.mp (hgreatest (-z) hz.neg (neg_le.mp hxz))

theorem RoundsUp.neg (h : RoundsUp p x y) : RoundsDown p (-x) (-y) := by
  obtain ⟨hy, hle, hleast⟩ := h
  refine ⟨hy.neg, neg_le_neg hle, fun z hz hzx => ?_⟩
  exact le_neg.mp (hleast (-z) hz.neg (le_neg.mp hzx))

theorem RoundsNearest.neg (h : RoundsNearest p x y) : RoundsNearest p (-x) (-y) := by
  obtain ⟨hy, hclosest⟩ := h
  refine ⟨hy.neg, fun z hz hne => ?_⟩
  have hdist : ∀ u : ℚ, |-x - u| = |x - -u| := by
    intro u
    rw [← abs_neg]
    congr 1
    ring
  have hcases := hclosest (-z) hz.neg fun heq => hne (by rw [← heq, neg_neg])
  rw [hdist, hdist, neg_neg, lastBitZero_neg_iff]
  rwa [lastBitZero_neg_iff] at hcases

/-- What is rounded with the other sign is rounded in the flipped direction. -/
theorem Rounds.neg (h : Rounds p d x y) : Rounds p d.flip (-x) (-y) := by
  cases d with
  | nearest => exact RoundsNearest.neg h
  | towardZero =>
      refine ⟨fun hx => RoundsUp.neg (h.2 ?_), fun hx => RoundsDown.neg (h.1 ?_)⟩
      · exact neg_nonneg.mp hx
      · exact neg_nonpos.mp hx
  | up => exact RoundsUp.neg h
  | down => exact RoundsDown.neg h

/-! ## At most one rounding -/

theorem RoundsDown.unique (h : RoundsDown p x y) (h' : RoundsDown p x z) : y = z :=
  le_antisymm (h'.2.2 y h.1 h.2.1) (h.2.2 z h'.1 h'.2.1)

theorem RoundsUp.unique (h : RoundsUp p x y) (h' : RoundsUp p x z) : y = z :=
  le_antisymm (h.2.2 z h'.1 h'.2.1) (h'.2.2 y h.1 h.2.1)

theorem RoundsNearest.unique (h : RoundsNearest p x y) (h' : RoundsNearest p x z) : y = z := by
  by_contra hne
  rcases h.2 z h'.1 (Ne.symm hne) with hlt | ⟨heq, hzero, hnot⟩
  · rcases h'.2 y h.1 hne with hlt' | ⟨heq', -, -⟩
    · exact lt_asymm hlt hlt'
    · exact hlt.ne heq'.symm
  · rcases h'.2 y h.1 hne with hlt' | ⟨-, hzero', -⟩
    · exact hlt'.ne heq.symm
    · exact hnot hzero'

theorem Rounds.unique (h : Rounds p d x y) (h' : Rounds p d x z) : y = z := by
  cases d with
  | nearest => exact RoundsNearest.unique h h'
  | towardZero =>
      rcases le_total 0 x with hx | hx
      · exact (h.1 hx).unique (h'.1 hx)
      · exact (h.2 hx).unique (h'.2 hx)
  | up => exact RoundsUp.unique h h'
  | down => exact RoundsDown.unique h h'

/-- What is representable is its own rounding. -/
theorem rounds_self (d : Direction) (h : Representable p x) : Rounds p d x x := by
  have hdown : RoundsDown p x x := ⟨h, le_rfl, fun z _ hz => hz⟩
  have hup : RoundsUp p x x := ⟨h, le_rfl, fun z _ hz => hz⟩
  cases d with
  | nearest =>
      refine ⟨h, fun z _ hne => Or.inl ?_⟩
      rw [sub_self, abs_zero]
      exact abs_pos.mpr (sub_ne_zero.mpr hne.symm)
  | towardZero => exact ⟨fun _ => hdown, fun _ => hup⟩
  | up => exact hup
  | down => exact hdown

/-! ## A rounding is of the size of the number -/

theorem representable_pow (hp : 0 < p) (k : ℤ) : Representable p (2 ^ k) := by
  refine ⟨1, k, ?_, by push_cast; ring⟩
  rw [abs_one]
  exact_mod_cast Nat.one_lt_two_pow hp.ne'

theorem Rounds.pow_le_of_pos (h : Rounds p d x y) (hp : 0 < p) {k : ℤ} (hk : 2 ^ k ≤ x) : 2 ^ k ≤ y := by
  have hrep := representable_pow hp k
  have hpos : (0 : ℚ) < 2 ^ k := zpow_pos (by norm_num) k
  cases d with
  | nearest =>
      by_contra hlt
      have hlt := not_le.mp hlt
      -- the power of two would be closer
      have hcloser : |x - 2 ^ k| < |x - y| := by
        rw [abs_of_nonneg (sub_nonneg.mpr hk), abs_of_nonneg (sub_nonneg.mpr (hlt.le.trans hk))]
        exact sub_lt_sub_left hlt x
      rcases h.2 _ hrep hlt.ne' with hlt' | ⟨heq, -, -⟩
      · exact lt_asymm hcloser hlt'
      · exact hcloser.ne heq.symm
  | towardZero => exact (h.1 (hpos.le.trans hk)).2.2 _ hrep hk
  | up => exact hk.trans h.2.1
  | down => exact h.2.2 _ hrep hk

theorem Rounds.pow_le_abs (h : Rounds p d x y) (hp : 0 < p) {k : ℤ} (hk : 2 ^ k ≤ |x|) : 2 ^ k ≤ |y| := by
  rcases abs_cases x with ⟨habs, -⟩ | ⟨habs, -⟩
  · rw [habs] at hk
    exact (h.pow_le_of_pos hp hk).trans (le_abs_self y)
  · rw [habs] at hk
    exact (h.neg.pow_le_of_pos hp hk).trans (neg_le_abs y)

/-- **A rounding is more than half of the number.** -/
theorem Rounds.half_lt (h : Rounds p d x y) (hp : 0 < p) (hx : x ≠ 0) : |x| < 2 * |y| := by
  have hpos : 0 < |x| := abs_pos.mpr hx
  have hle : (2 : ℚ) ^ Int.log 2 |x| ≤ |x| := Int.zpow_log_le_self (by norm_num) hpos
  have hlt : |x| < (2 : ℚ) ^ (Int.log 2 |x| + 1) := Int.lt_zpow_succ_log_self (by norm_num) |x|
  have hy := h.pow_le_abs hp hle
  rw [zpow_add_one₀ (by norm_num)] at hlt
  linarith

/-! ## Dropping bits -/

theorem pow_pred_mul_two (hp : 0 < p) : (2 : ℤ) ^ (p - 1) * 2 = 2 ^ p := by
  rw [← pow_succ, Nat.sub_add_cancel hp]

theorem zpow_pos_two (e : ℤ) : (0 : ℚ) < 2 ^ e := zpow_pos (by norm_num) e

/-- A number scaled by a larger power of two is a multiple of the smaller one. -/
theorem scale_down {e f : ℤ} (hef : e ≤ f) (m : ℤ) :
    (m : ℚ) * 2 ^ f = ((m * 2 ^ (f - e).toNat : ℤ) : ℚ) * 2 ^ e := by
  have hf : f = ((f - e).toNat : ℤ) + e := by omega
  push_cast
  conv_lhs => rw [hf]
  rw [zpow_add₀ (by norm_num), zpow_natCast, mul_assoc]

/-- **No gap.** Between two neighbours of `p` bits nothing is representable. -/
theorem Representable.not_between (hz : Representable p z) (hp : 0 < p) {m : ℤ} (hm : 2 ^ (p - 1) ≤ m) (e : ℤ) :
    z ≤ m * 2 ^ e ∨ (m + 1) * 2 ^ e ≤ z := by
  obtain ⟨n, f, hn, rfl⟩ := hz
  have he := zpow_pos_two e
  rcases le_or_gt e f with hef | hfe
  · -- of at least the same scale it is an integer in units of the last place
    rw [scale_down hef]
    rcases le_or_gt (n * 2 ^ (f - e).toNat) m with hle | hlt
    · exact Or.inl (mul_le_mul_of_nonneg_right (Int.cast_le.mpr hle) he.le)
    · refine Or.inr (mul_le_mul_of_nonneg_right ?_ he.le)
      exact_mod_cast Int.add_one_le_iff.mpr hlt
  · -- of a smaller scale it has no bit where the last place is
    refine Or.inl ?_
    have hn' : (n : ℚ) ≤ 2 ^ p := by
      have hle : n ≤ 2 ^ p := (le_abs_self n).trans hn.le
      exact_mod_cast hle
    have hm' : (2 : ℚ) ^ (p - 1) ≤ m := by exact_mod_cast hm
    have hscale : (2 : ℚ) ^ f ≤ 2 ^ (e - 1) := zpow_le_zpow_right₀ (by norm_num) (by omega)
    have hpow : (2 : ℚ) ^ p = 2 ^ (p - 1) * 2 := by exact_mod_cast (pow_pred_mul_two hp).symm
    have hhalf : (2 : ℚ) * 2 ^ (e - 1) = 2 ^ e := by
      rw [mul_comm, ← zpow_add_one₀ (by norm_num), sub_add_cancel]
    calc
      (n : ℚ) * 2 ^ f ≤ 2 ^ p * 2 ^ f := mul_le_mul_of_nonneg_right hn' (zpow_pos_two f).le
      _ ≤ 2 ^ p * 2 ^ (e - 1) := mul_le_mul_of_nonneg_left hscale (by positivity)
      _ = 2 ^ (p - 1) * 2 ^ e := by rw [hpow, mul_assoc, hhalf]
      _ ≤ m * 2 ^ e := mul_le_mul_of_nonneg_right hm' he.le

/-- The normalised significand is determined. -/
theorem significand_unique (hp : 0 < p) {m n e f : ℤ} (hm : 2 ^ (p - 1) ≤ |m|) (hm' : |m| < 2 ^ p)
    (hn : 2 ^ (p - 1) ≤ |n|) (hn' : |n| < 2 ^ p) (h : (m : ℚ) * 2 ^ e = n * 2 ^ f) : m = n := by
  -- of two different scales the smaller one would have one bit more
  have hone : ∀ {m n e f : ℤ}, |m| < 2 ^ p → 2 ^ (p - 1) ≤ |n| → (m : ℚ) * 2 ^ e = n * 2 ^ f → f ≤ e := by
    intro m n e f hm hn h
    by_contra hlt
    rw [scale_down (not_le.mp hlt).le] at h
    have heq : m = n * 2 ^ (f - e).toNat := Int.cast_inj.mp (mul_right_cancel₀ (zpow_pos_two e).ne' h)
    have hshift : (2 : ℤ) ^ 1 ≤ 2 ^ (f - e).toNat := pow_le_pow_right₀ (by norm_num) (by omega)
    rw [heq, abs_mul, abs_of_pos (by positivity : (0 : ℤ) < 2 ^ (f - e).toNat)] at hm
    have hbig : (2 : ℤ) ^ (p - 1) * 2 ≤ |n| * 2 ^ (f - e).toNat :=
      mul_le_mul hn (by simpa using hshift) (by norm_num) (abs_nonneg n)
    rw [pow_pred_mul_two hp] at hbig
    exact absurd hm (not_lt.mpr hbig)
  have hef : e = f := le_antisymm (hone hn' hm h.symm) (hone hm' hn h)
  rw [hef] at h
  exact Int.cast_inj.mp (mul_right_cancel₀ (zpow_pos_two f).ne' h)

/-- The dropped bits ask for one more: `r` of `2 ^ s`, below the significand `m`. -/
def Direction.increments (d : Direction) (m r s : ℕ) : Prop :=
  match d with
  | .nearest => 2 ^ s < 2 * r ∨ (2 ^ s = 2 * r ∧ m % 2 = 1)
  | .up => r ≠ 0
  | .towardZero | .down => False

instance (d : Direction) (m r s : ℕ) : Decidable (d.increments m r s) := by
  cases d <;> unfold Direction.increments <;> infer_instance

/-- A number of more than `p` bits: `m` is the significand, and `r` the `s` bits below it. -/
structure Dropping (p m r s : ℕ) : Prop where
  two_le : 2 ≤ p
  le : 2 ^ (p - 1) ≤ m
  lt : m < 2 ^ p
  rest : r < 2 ^ s

namespace Dropping
variable {m r s : ℕ} (h : Dropping p m r s) (e : ℤ)

/-- The number itself, from its two parts. -/
theorem split (m r s : ℕ) (e : ℤ) :
    ((m * 2 ^ s + r : ℕ) : ℚ) * 2 ^ e = m * 2 ^ (e + s) + r * 2 ^ e := by
  push_cast
  rw [zpow_add₀ (by norm_num), zpow_natCast]
  ring

theorem room (m r s : ℕ) (e : ℤ) :
    ((m : ℚ) + 1) * 2 ^ (e + s) - ((m * 2 ^ s + r : ℕ) : ℚ) * 2 ^ e = ((2 : ℚ) ^ s - r) * 2 ^ e := by
  rw [split, zpow_add₀ (by norm_num), zpow_natCast]
  ring

theorem lower_le (m r s : ℕ) (e : ℤ) : (m : ℚ) * 2 ^ (e + s) ≤ ((m * 2 ^ s + r : ℕ) : ℚ) * 2 ^ e := by
  rw [split]
  exact le_add_of_nonneg_right (mul_nonneg (Nat.cast_nonneg r) (zpow_pos_two e).le)

include h

theorem representable_lower : Representable p (m * 2 ^ (e + s)) := by
  refine ⟨m, e + s, ?_, by push_cast; rfl⟩
  rw [abs_of_nonneg (Int.natCast_nonneg m)]
  exact_mod_cast h.lt

theorem representable_upper : Representable p (((m : ℚ) + 1) * 2 ^ (e + s)) := by
  rcases Nat.lt_or_ge (m + 1) (2 ^ p) with hlt | hge
  · refine ⟨(m + 1 : ℕ), e + s, ?_, by push_cast; rfl⟩
    rw [abs_of_nonneg (Int.natCast_nonneg _)]
    exact_mod_cast hlt
  · -- the carry leaves a power of two
    have hm : m + 1 = 2 ^ p := le_antisymm h.lt hge
    have hpow := representable_pow (p := p) (Nat.lt_of_lt_of_le (by decide) h.two_le) (p + (e + s))
    rw [zpow_add₀ (by norm_num), zpow_natCast] at hpow
    have hcast : ((m : ℚ) + 1) = 2 ^ p := by exact_mod_cast hm
    rwa [hcast]

theorem lt_upper : ((m * 2 ^ s + r : ℕ) : ℚ) * 2 ^ e < ((m : ℚ) + 1) * 2 ^ (e + s) := by
  rw [← sub_pos, room]
  refine mul_pos (sub_pos.mpr ?_) (zpow_pos_two e)
  exact_mod_cast h.rest

/-- What is representable lies on one side. -/
theorem sides (hz : Representable p z) : z ≤ m * 2 ^ (e + s) ∨ ((m : ℚ) + 1) * 2 ^ (e + s) ≤ z := by
  have hm : (2 : ℤ) ^ (p - 1) ≤ m := by exact_mod_cast h.le
  exact hz.not_between (Nat.lt_of_lt_of_le (by decide) h.two_le) hm (e + s)

theorem roundsDown : RoundsDown p (((m * 2 ^ s + r : ℕ) : ℚ) * 2 ^ e) (m * 2 ^ (e + s)) := by
  refine ⟨h.representable_lower e, lower_le m r s e, fun z hz hle => ?_⟩
  rcases h.sides e hz with hlow | hhigh
  · exact hlow
  · exact absurd (hhigh.trans hle) (not_le.mpr (h.lt_upper e))

theorem roundsUp (hr : r ≠ 0) : RoundsUp p (((m * 2 ^ s + r : ℕ) : ℚ) * 2 ^ e) (((m : ℚ) + 1) * 2 ^ (e + s)) := by
  refine ⟨h.representable_upper e, (h.lt_upper e).le, fun z hz hle => ?_⟩
  rcases h.sides e hz with hlow | hhigh
  · have hpos : 0 < (r : ℚ) * 2 ^ e := mul_pos (by exact_mod_cast Nat.pos_of_ne_zero hr) (zpow_pos_two e)
    rw [split] at hle
    linarith
  · exact hhigh

end Dropping

/-! ## The closest of two neighbours -/

/-- The lower neighbour is closest if it is closer, or as close and ends with a zero. -/
theorem roundsNearest_lower {a b : ℚ} (ha : Representable p a) (hsides : ∀ z, Representable p z → z ≤ a ∨ b ≤ z)
    (hax : a ≤ x) (hxb : x ≤ b)
    (h : x - a < b - x ∨ (x - a = b - x ∧ LastBitZero p a ∧ ¬ LastBitZero p b)) : RoundsNearest p x a := by
  refine ⟨ha, fun z hz hne => ?_⟩
  rw [abs_of_nonneg (sub_nonneg.mpr hax)]
  rcases hsides z hz with hlow | hhigh
  · -- further down is further off
    have hlt : z < a := lt_of_le_of_ne hlow hne
    rw [abs_of_nonneg (sub_nonneg.mpr (hlow.trans hax))]
    exact Or.inl (sub_lt_sub_left hlt x)
  · rw [abs_of_nonpos (sub_nonpos.mpr (hxb.trans hhigh)), neg_sub]
    rcases h with hcloser | ⟨heq, hzero, hnot⟩
    · exact Or.inl (hcloser.trans_le (sub_le_sub_right hhigh x))
    · rcases hhigh.eq_or_lt with rfl | hlt
      · exact Or.inr ⟨heq, hzero, hnot⟩
      · exact Or.inl (heq.trans_lt (sub_lt_sub_right hlt x))

/-- And so the upper one. -/
theorem roundsNearest_upper {a b : ℚ} (hb : Representable p b) (hsides : ∀ z, Representable p z → z ≤ a ∨ b ≤ z)
    (hax : a ≤ x) (hxb : x ≤ b)
    (h : b - x < x - a ∨ (b - x = x - a ∧ LastBitZero p b ∧ ¬ LastBitZero p a)) : RoundsNearest p x b := by
  have hlower : RoundsNearest p (-x) (-b) := by
    refine roundsNearest_lower hb.neg (b := -a) (fun z hz => ?_) (neg_le_neg hxb) (neg_le_neg hax) ?_
    · rcases hsides (-z) hz.neg with hlow | hhigh
      · exact Or.inr (neg_le.mp hlow)
      · exact Or.inl (le_neg.mp hhigh)
    · rw [lastBitZero_neg_iff, lastBitZero_neg_iff, neg_sub_neg, neg_sub_neg]
      exact h
  have h := hlower.neg
  rwa [neg_neg, neg_neg] at h

namespace Dropping
variable {m r s : ℕ} (h : Dropping p m r s) (e : ℤ)

/-- How far it is to the two neighbours, in units of the dropped bits. -/
theorem closer_iff (m r s : ℕ) (e : ℤ) : ((m * 2 ^ s + r : ℕ) : ℚ) * 2 ^ e - m * 2 ^ (e + s) <
    ((m : ℚ) + 1) * 2 ^ (e + s) - ((m * 2 ^ s + r : ℕ) : ℚ) * 2 ^ e ↔ 2 * r < 2 ^ s := by
  have hlow : ((m * 2 ^ s + r : ℕ) : ℚ) * 2 ^ e - m * 2 ^ (e + s) = r * 2 ^ e := by
    rw [split]
    ring
  rw [hlow, room, mul_lt_mul_iff_left₀ (zpow_pos_two e), lt_sub_iff_add_lt, ← two_mul]
  exact_mod_cast Iff.rfl

theorem as_close_iff (m r s : ℕ) (e : ℤ) : ((m * 2 ^ s + r : ℕ) : ℚ) * 2 ^ e - m * 2 ^ (e + s) =
    ((m : ℚ) + 1) * 2 ^ (e + s) - ((m * 2 ^ s + r : ℕ) : ℚ) * 2 ^ e ↔ 2 * r = 2 ^ s := by
  have hlow : ((m * 2 ^ s + r : ℕ) : ℚ) * 2 ^ e - m * 2 ^ (e + s) = r * 2 ^ e := by
    rw [split]
    ring
  rw [hlow, room, mul_left_inj' (zpow_pos_two e).ne', eq_sub_iff_add_eq, ← two_mul]
  exact_mod_cast Iff.rfl

include h

theorem pos : 0 < p := Nat.lt_of_lt_of_le (by decide) h.two_le

/-- A significand that ends with a one. -/
theorem not_lastBitZero {n : ℕ} (hle : 2 ^ (p - 1) ≤ n) (hlt : n < 2 ^ p) (hodd : n % 2 = 1) (f : ℤ) :
    ¬ LastBitZero p ((n : ℚ) * 2 ^ f) := by
  rintro ⟨m', f', hlo, hhi, heven, heq⟩
  have hn : |(n : ℤ)| = n := abs_of_nonneg (Int.natCast_nonneg n)
  have hsame : (n : ℤ) = m' := by
    refine significand_unique h.pos (e := f) (f := f') ?_ ?_ hlo hhi (by exact_mod_cast heq)
    · rw [hn]
      exact_mod_cast hle
    · rw [hn]
      exact_mod_cast hlt
  rw [← hsame] at heven
  have := Int.even_iff.mp heven
  omega

theorem lastBitZero_lower (heven : m % 2 = 0) : LastBitZero p ((m : ℚ) * 2 ^ (e + s)) := by
  have hm : |(m : ℤ)| = m := abs_of_nonneg (Int.natCast_nonneg m)
  refine ⟨m, e + s, ?_, ?_, Int.even_iff.mpr (by omega), by push_cast; rfl⟩
  · rw [hm]
    exact_mod_cast h.le
  · rw [hm]
    exact_mod_cast h.lt

theorem lastBitZero_upper (hodd : m % 2 = 1) : LastBitZero p (((m : ℚ) + 1) * 2 ^ (e + s)) := by
  rcases Nat.lt_or_ge (m + 1) (2 ^ p) with hlt | hge
  · have hm : |((m + 1 : ℕ) : ℤ)| = (m + 1 : ℕ) := abs_of_nonneg (Int.natCast_nonneg _)
    refine ⟨(m + 1 : ℕ), e + s, ?_, ?_, Int.even_iff.mpr (by omega), by push_cast; rfl⟩
    · rw [hm]
      exact_mod_cast h.le.trans (Nat.le_succ m)
    · rw [hm]
      exact_mod_cast hlt
  · -- the carry leaves a power of two, of at least two bits
    have hm : m + 1 = 2 ^ p := le_antisymm h.lt hge
    have hcast : ((m : ℚ) + 1) = 2 ^ p := by exact_mod_cast hm
    have hpow : |(2 : ℤ) ^ (p - 1)| = 2 ^ (p - 1) := abs_of_pos (by positivity)
    have htwo := h.two_le
    refine ⟨2 ^ (p - 1), e + s + 1, hpow.ge, ?_, even_two.pow_of_ne_zero (by omega), ?_⟩
    · rw [hpow, ← pow_pred_mul_two h.pos]
      exact lt_mul_of_one_lt_right (by positivity) (by norm_num)
    · have hsplit : (2 : ℚ) ^ p = 2 ^ (p - 1) * 2 := by exact_mod_cast (pow_pred_mul_two h.pos).symm
      rw [hcast, hsplit, zpow_add_one₀ (by norm_num)]
      push_cast
      ring

theorem not_lastBitZero_upper (heven : m % 2 = 0) : ¬ LastBitZero p (((m : ℚ) + 1) * 2 ^ (e + s)) := by
  -- two to the `p` is even too, so there is no carry
  have hcarry : m + 1 ≠ 2 ^ p := by
    intro heq
    have hpow : 2 ^ p % 2 = 0 := Nat.even_iff.mp (even_two.pow_of_ne_zero h.pos.ne')
    omega
  have hnot := h.not_lastBitZero (n := m + 1) (h.le.trans (Nat.le_succ m)) (lt_of_le_of_ne h.lt hcarry) (by omega) (e + s)
  push_cast at hnot
  exact hnot

/-- The closest neighbour, by the dropped bits and by the last one that is kept. -/
theorem roundsNearest : RoundsNearest p (((m * 2 ^ s + r : ℕ) : ℚ) * 2 ^ e)
    (((m + if Direction.nearest.increments m r s then 1 else 0 : ℕ) : ℚ) * 2 ^ (e + s)) := by
  have hcloser := closer_iff m r s e
  have hclose := as_close_iff m r s e
  by_cases hup : Direction.nearest.increments m r s
  · rw [if_pos hup, Nat.cast_add_one]
    refine roundsNearest_upper (h.representable_upper e) (fun z => h.sides e) (lower_le m r s e) (h.lt_upper e).le ?_
    rcases hup with hmore | ⟨hhalf, hodd⟩
    · refine Or.inl (lt_of_le_of_ne (not_lt.mp (mt hcloser.mp (by omega))) fun heq => ?_)
      have := hclose.mp heq.symm
      omega
    · refine Or.inr ⟨(hclose.mpr hhalf.symm).symm, h.lastBitZero_upper e hodd, ?_⟩
      exact h.not_lastBitZero h.le h.lt hodd (e + s)
  · rw [if_neg hup, Nat.add_zero]
    have hnot : ¬ 2 ^ s < 2 * r ∧ ¬(2 ^ s = 2 * r ∧ m % 2 = 1) := not_or.mp hup
    refine roundsNearest_lower (h.representable_lower e) (fun z => h.sides e) (lower_le m r s e) (h.lt_upper e).le ?_
    rcases (not_lt.mp hnot.1).lt_or_eq with hless | hhalf
    · exact Or.inl (hcloser.mpr hless)
    · have heven : m % 2 = 0 := by
        have := hnot.2
        omega
      exact Or.inr ⟨hclose.mpr hhalf, h.lastBitZero_lower e heven, h.not_lastBitZero_upper e heven⟩

/-- **Rounding by dropping bits.** -/
theorem rounds (d : Direction) : Rounds p d (((m * 2 ^ s + r : ℕ) : ℚ) * 2 ^ e)
    (((m + if d.increments m r s then 1 else 0 : ℕ) : ℚ) * 2 ^ (e + s)) := by
  have hdown : RoundsDown p (((m * 2 ^ s + r : ℕ) : ℚ) * 2 ^ e) (((m + 0 : ℕ) : ℚ) * 2 ^ (e + s)) := h.roundsDown e
  cases d with
  | nearest => exact h.roundsNearest e
  | down => exact hdown
  | towardZero =>
      refine ⟨fun _ => hdown, fun hneg => ?_⟩
      -- a positive number is not rounded from below zero
      have hm : 0 < m := Nat.lt_of_lt_of_le (by positivity) h.le
      have hpos : (0 : ℚ) < m * 2 ^ (e + s) := mul_pos (by exact_mod_cast hm) (zpow_pos_two _)
      exact absurd (hpos.trans_le (lower_le m r s e)) (not_lt.mpr hneg)
  | up =>
      by_cases hr : r = 0
      · subst hr
        have hexact : ((m * 2 ^ s + 0 : ℕ) : ℚ) * 2 ^ e = m * 2 ^ (e + s) := by
          rw [split, Nat.cast_zero, zero_mul, add_zero]
        have hself := rounds_self Direction.up (h.representable_lower e)
        rw [hexact]
        exact hself
      · rw [if_pos (show Direction.up.increments m r s from hr)]
        rw [Nat.cast_add_one]
        exact h.roundsUp e hr

end Dropping

/-! ## The significand that is kept -/

/-- The significand of an integer rounded to `p` bits. -/
def kept (d : Direction) (p n : ℕ) : ℕ :=
  n / 2 ^ (n.size - p) +
    if d.increments (n / 2 ^ (n.size - p)) (n % 2 ^ (n.size - p)) (n.size - p) then 1 else 0

section Kept
variable {n : ℕ} (d : Direction)

/-- Without bits to drop there is nothing to add. -/
theorem not_increments_zero (d : Direction) (m : ℕ) : ¬ d.increments m 0 0 := by
  cases d <;> simp [Direction.increments]

theorem kept_of_size_le (h : n.size ≤ p) : kept d p n = n := by
  rw [kept, Nat.sub_eq_zero_of_le h, pow_zero, Nat.div_one, Nat.mod_one, if_neg (not_increments_zero d n),
    Nat.add_zero]

theorem dropping_of_size (hp : 2 ≤ p) (h : p ≤ n.size) :
    Dropping p (n / 2 ^ (n.size - p)) (n % 2 ^ (n.size - p)) (n.size - p) where
  two_le := hp
  le := by
    rw [Nat.le_div_iff_mul_le (by positivity), ← pow_add]
    exact Nat.lt_size.mp (by omega)
  lt := by
    rw [Nat.div_lt_iff_lt_mul (by positivity), ← pow_add]
    refine (Nat.lt_size_self n).trans_le (Nat.pow_le_pow_right (by decide) (by omega))
  rest := Nat.mod_lt _ (by positivity)

/-- **An integer times a power of two, rounded.** -/
theorem rounds_kept (hp : 2 ≤ p) (n : ℕ) (e : ℤ) :
    Rounds p d ((n : ℚ) * 2 ^ e) (kept d p n * 2 ^ (e + (n.size - p : ℕ))) := by
  rcases Nat.lt_or_ge n.size p with hsmall | hlarge
  · rw [kept_of_size_le d hsmall.le, Nat.sub_eq_zero_of_le hsmall.le, Nat.cast_zero, add_zero]
    refine rounds_self d ⟨n, e, ?_, by push_cast; rfl⟩
    rw [abs_of_nonneg (Int.natCast_nonneg n)]
    have hlt : n < 2 ^ p := (Nat.lt_size_self n).trans_le (Nat.pow_le_pow_right (by decide) hsmall.le)
    exact_mod_cast hlt
  · have h := (dropping_of_size hp hlarge).rounds e d
    rwa [Nat.div_add_mod'] at h

/-- What is kept has `p` bits, or carries out of them. -/
theorem kept_le (hp : 2 ≤ p) : kept d p n ≤ 2 ^ p := by
  rcases Nat.lt_or_ge n.size p with hsmall | hlarge
  · rw [kept_of_size_le d hsmall.le]
    exact ((Nat.lt_size_self n).trans_le (Nat.pow_le_pow_right (by decide) hsmall.le)).le
  · have hlt := (dropping_of_size hp hlarge).lt
    unfold kept
    split
    · exact hlt
    · exact hlt.le

theorem le_kept (hp : 2 ≤ p) (h : p ≤ n.size) : 2 ^ (p - 1) ≤ kept d p n :=
  (dropping_of_size hp h).le.trans (Nat.le_add_right _ _)

/-- A rounding at most doubles. -/
theorem kept_mul_le (hp : 2 ≤ p) (n : ℕ) : kept d p n * 2 ^ (n.size - p) ≤ 2 * n := by
  rcases Nat.lt_or_ge n.size p with hsmall | hlarge
  · rw [kept_of_size_le d hsmall.le, Nat.sub_eq_zero_of_le hsmall.le, pow_zero]
    omega
  · have hone : 1 ≤ n / 2 ^ (n.size - p) :=
      (Nat.one_le_two_pow).trans (dropping_of_size hp hlarge).le
    have hdouble : kept d p n ≤ 2 * (n / 2 ^ (n.size - p)) := by
      unfold kept
      split <;> omega
    calc
      kept d p n * 2 ^ (n.size - p) ≤ 2 * (n / 2 ^ (n.size - p)) * 2 ^ (n.size - p) := Nat.mul_le_mul_right _ hdouble
      _ = 2 * (n / 2 ^ (n.size - p) * 2 ^ (n.size - p)) := Nat.mul_assoc _ _ _
      _ ≤ 2 * n := Nat.mul_le_mul_left 2 (Nat.div_mul_le_self n _)

/-- **The carry.** It leaves a power of two above the number, and no other rounding does. -/
theorem kept_eq_pow_iff (hp : 2 ≤ p) (e : ℤ) : kept d p n = 2 ^ p ↔
    (n : ℚ) * 2 ^ e < kept d p n * 2 ^ (e + (n.size - p : ℕ)) ∧
      ∃ k : ℤ, (kept d p n : ℚ) * 2 ^ (e + (n.size - p : ℕ)) = 2 ^ k := by
  rcases Nat.lt_or_ge n.size p with hsmall | hlarge
  · have hlt : n < 2 ^ p := (Nat.lt_size_self n).trans_le (Nat.pow_le_pow_right (by decide) hsmall.le)
    rw [kept_of_size_le d hsmall.le, Nat.sub_eq_zero_of_le hsmall.le, Nat.cast_zero, add_zero]
    exact iff_of_false hlt.ne fun h => lt_irrefl _ h.1
  have hdropping := dropping_of_size (p := p) hp hlarge
  have hupper := hdropping.lt_upper e
  have hlower := Dropping.lower_le (n / 2 ^ (n.size - p)) (n % 2 ^ (n.size - p)) (n.size - p) e
  rw [Nat.div_add_mod'] at hupper hlower
  have hkept : kept d p n = n / 2 ^ (n.size - p) ∨ kept d p n = n / 2 ^ (n.size - p) + 1 := by
    unfold kept
    split
    · exact Or.inr rfl
    · exact Or.inl rfl
  have hm := hdropping.lt
  have hm' := hdropping.le
  generalize n / 2 ^ (n.size - p) = m at hupper hlower hkept hm hm'
  have hpow := zpow_pos_two (e + (n.size - p : ℕ))
  constructor
  · intro hfull
    have hcarried : kept d p n = m + 1 := hkept.resolve_left (by omega)
    refine ⟨?_, p + (e + (n.size - p : ℕ)), ?_⟩
    · rw [hcarried, Nat.cast_add_one]
      exact hupper
    · rw [hfull, Nat.cast_pow, Nat.cast_ofNat, ← zpow_natCast, ← zpow_add₀ (by norm_num)]
  · rintro ⟨hgrown, k, hk⟩
    -- above `2 ^ (p - 1)` the next power of two is `2 ^ p`
    have hcarried : kept d p n = m + 1 := by
      refine hkept.resolve_left fun hsame => ?_
      rw [hsame] at hgrown
      exact absurd hlower (not_le.mpr hgrown)
    have hvalue : (kept d p n : ℚ) = 2 ^ (k - (e + (n.size - p : ℕ))) := by
      rw [zpow_sub₀ (by norm_num), eq_div_iff hpow.ne', hk]
    have hbig : (2 : ℚ) ^ ((p - 1 : ℕ) : ℤ) < 2 ^ (k - (e + (n.size - p : ℕ))) := by
      rw [← hvalue, zpow_natCast, hcarried]
      exact_mod_cast Nat.lt_succ_of_le hm'
    have hk' : ((p - 1 : ℕ) : ℤ) < k - (e + (n.size - p : ℕ)) := (zpow_lt_zpow_iff_right₀ (by norm_num)).mp hbig
    have hge : (2 : ℚ) ^ (p : ℤ) ≤ kept d p n := by
      rw [hvalue]
      exact zpow_le_zpow_right₀ (by norm_num) (by omega)
    rw [zpow_natCast] at hge
    exact le_antisymm (kept_le d hp) (by exact_mod_cast hge)

end Kept

end Lib.Rounding

/-!
## The integer part of a scaled number

A binary floating-point number is a natural number times a power of two. Truncated toward zero it is that number
shifted: to the left without loss, or to the right with the bits below the point dropped.
-/

namespace Lib.Truncation

/-- A rational number rounded toward zero. -/
def towardZero (q : ℚ) : ℤ := if 0 ≤ q then ⌊q⌋ else ⌈q⌉

theorem towardZero_of_nonneg {q : ℚ} (h : 0 ≤ q) : towardZero q = ⌊q⌋ := if_pos h

theorem towardZero_neg {q : ℚ} (h : 0 ≤ q) : towardZero (-q) = -⌊q⌋ := by
  rcases h.eq_or_lt with rfl | hpos
  · simp [towardZero]
  · rw [towardZero, if_neg (not_le.mpr (neg_neg_of_pos hpos)), Int.ceil_neg]

theorem scaled_nonneg (n : ℕ) (e : ℤ) : 0 ≤ (n : ℚ) * 2 ^ e := mul_nonneg (Nat.cast_nonneg n) (zpow_nonneg rfl e)

/-- Scaled up, the number is shifted to the left. -/
theorem floor_scaled_up (n k : ℕ) : ⌊(n : ℚ) * 2 ^ (k : ℤ)⌋ = ((n * 2 ^ k : ℕ) : ℤ) := by
  have hcast : (n : ℚ) * 2 ^ (k : ℤ) = ((n * 2 ^ k : ℕ) : ℚ) := by
    rw [zpow_natCast]
    push_cast
    rfl
  rw [hcast, Int.floor_natCast]

/-- Scaled down, it is shifted to the right. -/
theorem floor_scaled_down (n k : ℕ) : ⌊(n : ℚ) * 2 ^ (-(k : ℤ))⌋ = ((n / 2 ^ k : ℕ) : ℤ) := by
  have hcast : (n : ℚ) * 2 ^ (-(k : ℤ)) = (n : ℚ) / ((2 ^ k : ℕ) : ℚ) := by
    rw [zpow_neg, zpow_natCast, div_eq_mul_inv]
    push_cast
    rfl
  rw [hcast, Rat.floor_natCast_div_natCast]
  rfl

end Lib.Truncation
