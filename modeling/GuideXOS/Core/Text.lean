/-!
# `Text` — strings as bytes

A string of the source is a sequence of bytes of any value, in no particular encoding.
-/

namespace GuideXOS.Core

abbrev Text := List UInt8

/-- The bytes of a literal. -/
def text (literal : String) : Text := literal.toList.map fun c => c.toNat.toUInt8

/-- The "C" locale's. -/
def toupper (c : UInt8) : UInt8 := if 0x61 ≤ c ∧ c ≤ 0x7A then c - 0x20 else c

end GuideXOS.Core
