import Mathlib.Data.Int.ModEq
import Mathlib.Tactic.LinearCombination
import Mathlib.Tactic.Ring
import Mathlib.Tactic.Zify

/-!
# `WideProducts` — the product of two words in two words

A machine multiplies words by the digits of their halves and collects the carries by hand. `schoolbook` is the digit
identity, for any base. `signed_mul` says what a signed product differs from the unsigned one by: nothing but the other
factor in the upper word, for each factor that is negative.
-/

namespace Lib.WideProducts

/-- **The four partial products and their carries.** The lower result digits come from `p0` and the lower digits of
    the two middle products, the rest carries into the upper ones. -/
theorem schoolbook (base p0 p1 p2 p3 : Nat) :
    let middle := p0 / base + p1 % base + p2 % base
    p0 % base + middle % base * base + (p3 + p1 / base + p2 / base + middle / base) * (base * base) =
      p0 + (p1 + p2) * base + p3 * (base * base) := by
  dsimp only
  have h0 := Nat.div_add_mod p0 base
  have h1 := Nat.div_add_mod p1 base
  have h2 := Nat.div_add_mod p2 base
  have hmiddle := Nat.div_add_mod (p0 / base + p1 % base + p2 % base) base
  zify at *
  linear_combination h0 + (base : ℤ) * h1 + (base : ℤ) * h2 + (base : ℤ) * hmiddle

/-- The product of two numbers of two digits. -/
theorem digits_mul (base a b : Nat) :
    a % base * (b % base) + (a % base * (b / base) + a / base * (b % base)) * base +
        a / base * (b / base) * (base * base) = a * b := by
  have ha := Nat.div_add_mod a base
  have hb := Nat.div_add_mod b base
  calc
    _ = (base * (a / base) + a % base) * (base * (b / base) + b % base) := by ring
    _ = a * b := by rw [ha, hb]

/-! ## Two's complement -/

/-- The signed number that a word below `2 * half` stands for. -/
def signedOf (half a : Nat) : Int := if a < half then a else a - 2 * half

/-- **The signed product**, modulo two words: each negative factor takes the other one from the upper word. -/
theorem signed_mul (half a b : Nat) : signedOf half a * signedOf half b ≡
    a * b - 2 * half * ((if a < half then 0 else (b : Int)) + (if b < half then 0 else (a : Int)))
      [ZMOD 2 * half * (2 * half)] := by
  unfold signedOf
  refine (Int.modEq_iff_dvd).mpr ?_
  split
  · split
    · exact ⟨0, by ring⟩
    · exact ⟨0, by ring⟩
  · split
    · exact ⟨0, by ring⟩
    · exact ⟨-1, by ring⟩

end Lib.WideProducts
