import RunCharts.Proofs.Binary64.Rounding

/-!
# Decimals of one value

The number nearest to a decimal depends on the value alone: moving a power of ten from the digits
into the exponent changes nothing. The exponents that are settled before a power of ten is formed
are settled as the rounding would do it.
-/

namespace RunCharts.Decimal

open Binary64

variable {negative : Bool} {n k : Nat}

theorem ten_pow_add (i j : Nat) : Nat.pow 10 (i + j) = Nat.pow 10 i * Nat.pow 10 j :=
  Nat.pow_add 10 i j

theorem two_pow_le_ten_pow (i : Nat) : Nat.pow 2 i ≤ Nat.pow 10 i :=
  Nat.pow_le_pow_left (by decide) i

/-- A magnitude of at least `10 ^ 400` is out of range. -/
theorem nearest_of_huge (hn : n ≠ 0) (hk : 400 ≤ k) :
    nearest negative (n * Nat.pow 10 k * unitsPerOne) 1 = .infinite negative := by
  apply nearest_of_le_rounded
  have hshort : IsShort overflowUnits := by
    unfold overflowUnits
    exact isShort_two_pow _
  apply le_rounded_of_isShort hshort (by decide)
  have hdigits : Nat.pow 2 (3 * k) ≤ n * Nat.pow 10 k := by
    calc Nat.pow 2 (3 * k) = Nat.pow 8 k := Nat.pow_mul 2 3 k
      _ ≤ Nat.pow 10 k := Nat.pow_le_pow_left (by decide) k
      _ ≤ n * Nat.pow 10 k := Nat.le_mul_of_pos_left _ (Nat.pos_of_ne_zero hn)
  unfold overflowUnits unitsPerOne
  rw [Nat.mul_one]
  calc Nat.pow 2 (1024 + unitExponent) ≤ Nat.pow 2 (3 * k + unitExponent) := two_pow_le (by omega)
    _ = Nat.pow 2 (3 * k) * Nat.pow 2 unitExponent := two_pow_add _ _
    _ ≤ n * Nat.pow 10 k * Nat.pow 2 unitExponent := Nat.mul_le_mul_right _ hdigits

/-- A quotient below a half is rounded to zero. -/
theorem nearest_of_lt_half {num den : Nat} (h : 2 * num < den) :
    nearest negative num den = .zero negative := by
  have hquot : num / den = 0 := Nat.div_eq_of_lt (by omega)
  have hstep : gridStep 0 = 1 := by decide
  have hrounded : rounded num den = 0 := by
    have hlt : roundQuotient num den < 1 := roundQuotient_lt_of_lt (by omega)
    rw [rounded, hquot, hstep, Nat.mul_one, Nat.mul_one]
    omega
  have hrange : rounded num den < overflowUnits := by
    rw [hrounded]
    exact overflowUnits_pos
  rw [nearest_of_rounded_lt hrange, Binary64.zero]
  congr 1

/-- A magnitude far below the unit is rounded to zero. -/
theorem nearest_of_tiny (hk : n.log2 + 1100 < k) :
    nearest negative (n * unitsPerOne) (Nat.pow 10 k) = .zero negative := by
  apply nearest_of_lt_half
  have hn : n < Nat.pow 2 (n.log2 + 1) := Nat.lt_log2_self
  have hunits : n * unitsPerOne < Nat.pow 2 (n.log2 + 1) * unitsPerOne :=
    Nat.mul_lt_mul_of_pos_right hn unitsPerOne_pos
  have hpow : Nat.pow 2 (n.log2 + 1) * unitsPerOne * 2 =
      Nat.pow 2 (n.log2 + 1 + unitExponent + 1) := by
    unfold unitsPerOne
    rw [two_pow_succ (n.log2 + 1 + unitExponent), two_pow_add (n.log2 + 1) unitExponent]
  have hle : Nat.pow 2 (n.log2 + 1 + unitExponent + 1) ≤ Nat.pow 2 k := by
    apply two_pow_le
    unfold unitExponent
    omega
  have hten := two_pow_le_ten_pow k
  omega

/-- The nearest number as one rounding, whatever the exponent. -/
theorem toBinary64_eq_nearest (d : Decimal) (h : d.digits ≠ 0) :
    d.toBinary64 = nearest d.negative (d.digits * Nat.pow 10 d.exponent.toNat * unitsPerOne)
      (Nat.pow 10 (-d.exponent).toNat) := by
  unfold toBinary64
  rw [if_neg h]
  have hzero : Nat.pow 10 0 = 1 := rfl
  split
  · have hexponent : (-d.exponent).toNat = 0 := by omega
    rw [hexponent, hzero, nearest_of_huge h (by omega)]
  · split
    · have hexponent : d.exponent.toNat = 0 := by omega
      rw [hexponent, hzero, Nat.mul_one, nearest_of_tiny (by omega)]
    · split
      · have hexponent : (-d.exponent).toNat = 0 := by omega
        rw [hexponent, hzero]
      · have hexponent : d.exponent.toNat = 0 := by omega
        rw [hexponent, hzero, Nat.mul_one]

/-- Zeros at the end of the digits count as much in the exponent. -/
theorem toBinary64_shift (negative : Bool) (n k : Nat) (e : Int) :
    toBinary64 ⟨negative, n * Nat.pow 10 k, e⟩ = toBinary64 ⟨negative, n, e + k⟩ := by
  by_cases hn : n = 0
  · subst hn
    rw [Nat.zero_mul]
    rfl
  · have hpos : 0 < Nat.pow 10 k := Binary64.pow_pos (by decide) k
    have hdigits : n * Nat.pow 10 k ≠ 0 := Nat.mul_ne_zero hn (by omega)
    rw [toBinary64_eq_nearest _ hdigits, toBinary64_eq_nearest _ hn]
    dsimp only
    -- the part of the shift that the exponent takes over is a factor of both sides
    obtain ⟨j, hj⟩ : ∃ j, k + e.toNat = (e + k).toNat + j ∧ (-e).toNat = (-(e + k)).toNat + j :=
      ⟨(-e).toNat - (-(e + k)).toNat, by omega, by omega⟩
    have hnum : n * Nat.pow 10 k * Nat.pow 10 e.toNat * unitsPerOne =
        n * Nat.pow 10 (e + k).toNat * unitsPerOne * Nat.pow 10 j := by
      rw [Nat.mul_assoc n, ← ten_pow_add, hj.1, ten_pow_add]
      ring
    rw [hnum, hj.2, ten_pow_add, nearest_mul_right _ _ _ (Binary64.pow_pos (by decide) j)]

theorem isNegative_nearest (negative : Bool) (num den : Nat) :
    (nearest negative num den).isNegative = negative := by
  unfold nearest
  dsimp only
  split <;> rfl

theorem isNegative_toBinary64 (d : Decimal) : d.toBinary64.isNegative = d.negative := by
  unfold toBinary64
  repeat' split
  · rfl
  · rfl
  · rfl
  · exact isNegative_nearest ..
  · exact isNegative_nearest ..

theorem nearest_ne_nan (negative : Bool) (num den : Nat) : nearest negative num den ≠ .nan := by
  rcases nearest_cases negative num den with ⟨_, hfinite⟩ | hinfinite
  · rw [hfinite]
    nofun
  · rw [hinfinite]
    nofun

theorem toBinary64_ne_nan (d : Decimal) : d.toBinary64 ≠ .nan := by
  unfold toBinary64
  repeat' split
  · nofun
  · nofun
  · nofun
  · exact nearest_ne_nan _ _ _
  · exact nearest_ne_nan _ _ _

theorem negative_shortest (negative : Bool) (units : Nat) (h : Representable units) :
    (shortest negative units h).negative = negative := by
  rw [← isNegative_toBinary64, toBinary64_shortest]
  rfl

end RunCharts.Decimal
