import RunCharts.Binary64.Basic

/-!
# Decimal numerals and the numbers nearest to them

A decimal numeral is a sign, a run of digits and a power of ten. `Decimal.toBinary64` rounds its
exact value once. Exponents far out of range are settled before a power of ten is formed.
-/

namespace RunCharts

/-- The value `± digits * 10 ^ exponent`. -/
structure Decimal where
  /-- Whether a minus sign stands in front. -/
  negative : Bool
  /-- The digits, read as one natural number. -/
  digits : Nat
  exponent : Int
deriving DecidableEq, Repr

namespace Decimal

/-- The number nearest to the value. A nonzero value is beyond `10 ^ 400` in the second case and
below `10 ^ -1000` in the third. -/
def toBinary64 (d : Decimal) : Binary64 :=
  if d.digits = 0 then .zero d.negative
  else if 400 < d.exponent then .infinite d.negative
  else if d.exponent + d.digits.log2 < -1100 then .zero d.negative
  else if 0 ≤ d.exponent then
    .nearest d.negative (d.digits * Nat.pow 10 d.exponent.toNat * Binary64.unitsPerOne) 1
  else
    .nearest d.negative (d.digits * Binary64.unitsPerOne) (Nat.pow 10 (-d.exponent).toNat)

end Decimal

end RunCharts
