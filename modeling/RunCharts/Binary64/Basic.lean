/-!
# Binary64 numbers

Every finite binary64 number is a whole multiple of `2 ^ -1074`, the least positive one. A finite
number is therefore kept as a sign and a count of such units, which makes equality structural and
order the order of integers. Each operation is the exact result, rounded once by `nearest`.

Only the operations that the charts need are here. Exponent and significand fields, payloads of
NaN and the other rounding directions are left out.
-/

namespace RunCharts

namespace Binary64

/-- The unit is `2 ^ -1074`. -/
def unitExponent : Nat := 1074

def unitsPerOne : Nat := Nat.pow 2 unitExponent

/-- The least magnitude that is out of range: `2 ^ 1024`, in units. -/
def overflowUnits : Nat := Nat.pow 2 (1024 + unitExponent)

theorem pow_pos {base : Nat} (h : 0 < base) (n : Nat) : 0 < Nat.pow base n := Nat.pow_pos h

theorem unitsPerOne_pos : 0 < unitsPerOne := by
  unfold unitsPerOne
  exact pow_pos (by decide) _

theorem overflowUnits_pos : 0 < overflowUnits := by
  unfold overflowUnits
  exact pow_pos (by decide) _

def significandLimit : Nat := Nat.pow 2 53

/-- Magnitudes, in units of `2 ^ -1074`, that have a binary64 number: at most 53 significant bits,
and below `2 ^ 1024`. -/
def Representable (units : Nat) : Prop :=
  (∃ m k, m ≤ significandLimit ∧ units = m * Nat.pow 2 k) ∧ units < overflowUnits

end Binary64

/-- A binary64 number: finite with a sign and a magnitude in units of `2 ^ -1074`, or one of the
special values. Zero has both signs. -/
inductive Binary64 where
  | finite (negative : Bool) (units : Nat) (representable : Binary64.Representable units)
  | infinite (negative : Bool)
  | nan
deriving DecidableEq

namespace Binary64

/-- The quotient rounded to a nearest integer; a tie goes to the even one. -/
def roundQuotient (num den : Nat) : Nat :=
  let q := num / den
  let r := num % den
  if 2 * r < den then q else if den < 2 * r then q + 1 else q + q % 2

theorem roundQuotient_le_succ (num den : Nat) : roundQuotient num den ≤ num / den + 1 := by
  simp only [roundQuotient]
  split
  · omega
  · split <;> omega

theorem roundQuotient_of_dvd {num den : Nat} (h : den ∣ num) (hd : 0 < den) :
    roundQuotient num den = num / den := by
  have hr : num % den = 0 := Nat.mod_eq_zero_of_dvd h
  simp [roundQuotient, hr, hd]

/-- The distance of neighbouring numbers at a magnitude: the power of two that leaves 53 bits. -/
def gridStep (units : Nat) : Nat := Nat.pow 2 (units.log2 - 52)

theorem gridStep_pos (units : Nat) : 0 < gridStep units := Nat.two_pow_pos _

theorem div_gridStep_lt (units : Nat) : units / gridStep units < significandLimit := by
  rw [Nat.div_lt_iff_lt_mul (gridStep_pos units), significandLimit, gridStep, Nat.pow_eq,
    Nat.pow_eq, ← Nat.pow_add]
  exact Nat.lt_of_lt_of_le Nat.lt_log2_self (Nat.pow_le_pow_right (by decide) (by omega))

theorem roundQuotient_gridStep_le (num den : Nat) :
    roundQuotient num (den * gridStep (num / den)) ≤ significandLimit := by
  have h := roundQuotient_le_succ num (den * gridStep (num / den))
  have h' : num / (den * gridStep (num / den)) < significandLimit := by
    rw [← Nat.div_div_eq_div_mul]
    exact div_gridStep_lt _
  omega

/-- The number nearest to `num / den` units, a tie going to the even significand. A magnitude that
rounds to `2 ^ 1024` or more becomes infinite. -/
def nearest (negative : Bool) (num den : Nat) : Binary64 :=
  let step := gridStep (num / den)
  let m := roundQuotient num (den * step)
  if h : m * step < overflowUnits then
    .finite negative (m * step) ⟨⟨m, _, roundQuotient_gridStep_le num den, rfl⟩, h⟩
  else
    .infinite negative

def zero (negative : Bool) : Binary64 :=
  .finite negative 0 ⟨⟨0, 0, by decide, by decide⟩, overflowUnits_pos⟩

def ofInt (n : Int) : Binary64 := nearest (n < 0) (n.natAbs * unitsPerOne) 1

def ofRatio (n : Int) (d : Nat) : Binary64 := nearest (n < 0) (n.natAbs * unitsPerOne) d

def isFinite : Binary64 → Bool
  | finite _ _ _ => true
  | _ => false

def isNegative : Binary64 → Bool
  | finite s _ _ => s
  | infinite s => s
  | nan => false

def signedUnits (negative : Bool) (units : Nat) : Int := if negative then -units else units

/-- The order of the extended line. The two zeros are level, and NaN is below and above nothing. -/
def lt : Binary64 → Binary64 → Bool
  | nan, _ => false
  | _, nan => false
  | infinite s, infinite t => s && !t
  | infinite s, finite _ _ _ => s
  | finite _ _ _, infinite t => !t
  | finite s u _, finite t v _ => decide (signedUnits s u < signedUnits t v)

def isAtLeast (x bound : Binary64) : Bool := x != nan && bound != nan && !x.lt bound

/-- Product. Zero times an infinity has no value. -/
def mul : Binary64 → Binary64 → Binary64
  | nan, _ => nan
  | _, nan => nan
  | infinite s, infinite t => infinite (s != t)
  | infinite s, finite t v _ => if v = 0 then nan else infinite (s != t)
  | finite s u _, infinite t => if u = 0 then nan else infinite (s != t)
  | finite s u _, finite t v _ => nearest (s != t) (u * v) unitsPerOne

/-- Sum. A sum of zero is positive unless both terms are negative zeros. -/
def add : Binary64 → Binary64 → Binary64
  | nan, _ => nan
  | _, nan => nan
  | infinite s, infinite t => if s = t then infinite s else nan
  | infinite s, finite _ _ _ => infinite s
  | finite _ _ _, infinite t => infinite t
  | finite s u _, finite t v _ =>
    let n := signedUnits s u + signedUnits t v
    if n = 0 then zero (s && t) else nearest (n < 0) n.natAbs 1

def floor? : Binary64 → Option Int
  | finite s u _ => some (Int.fdiv (signedUnits s u) unitsPerOne)
  | _ => none

def truncate? : Binary64 → Option Int
  | finite s u _ => some (signedUnits s (u / unitsPerOne))
  | _ => none

def toInt? : Binary64 → Option Int
  | finite s u _ => if u % unitsPerOne = 0 then some (signedUnits s (u / unitsPerOne)) else none
  | _ => none

/-- A magnitude of at most 53 significant bits lies on its grid. -/
theorem gridStep_dvd_of_significand {m : Nat} (k : Nat) (hm : m ≤ significandLimit) :
    gridStep (m * Nat.pow 2 k) ∣ m * Nat.pow 2 k := by
  rw [significandLimit, Nat.pow_eq] at hm
  rw [gridStep, Nat.pow_eq, Nat.pow_eq]
  rcases Nat.eq_zero_or_pos m with rfl | hpos
  · simp
  rcases Nat.lt_or_eq_of_le hm with hlt | rfl
  · have hlog : (m * 2 ^ k).log2 < 53 + k := by
      rw [Nat.log2_lt (Nat.ne_of_gt (Nat.mul_pos hpos (Nat.two_pow_pos k))), Nat.pow_add]
      exact Nat.mul_lt_mul_of_pos_right hlt (Nat.two_pow_pos k)
    exact Nat.dvd_trans (Nat.pow_dvd_pow 2 (by omega)) (Nat.dvd_mul_left _ _)
  · rw [← Nat.pow_add, Nat.log2_two_pow]
    exact Nat.pow_dvd_pow 2 (by omega)

/-- A representable magnitude lies on its grid. -/
theorem gridStep_dvd {units : Nat} (h : Representable units) : gridStep units ∣ units := by
  obtain ⟨⟨m, k, hm, rfl⟩, -⟩ := h
  exact gridStep_dvd_of_significand k hm

/-- A representable magnitude is its own rounding. -/
theorem nearest_of_representable {units : Nat} (h : Representable units) (negative : Bool) :
    nearest negative units 1 = .finite negative units h := by
  have hr : roundQuotient units (gridStep units) * gridStep units = units := by
    rw [roundQuotient_of_dvd (gridStep_dvd h) (gridStep_pos units),
      Nat.div_mul_cancel (gridStep_dvd h)]
  unfold nearest
  simp only [Nat.div_one, Nat.one_mul]
  rw [dif_pos (by rw [hr]; exact h.2)]
  congr 1

end Binary64

end RunCharts
