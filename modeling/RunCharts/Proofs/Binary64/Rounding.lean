import Mathlib.Tactic.Ring
import RunCharts.Decimal.Shortest
import RunCharts.Proofs.Binary64.Order

/-!
# Rounding

What the rounding of a quotient does to the order of magnitudes. It is monotone, and it keeps the
magnitudes that have at most 53 significant bits; so it never crosses one of them. A quotient is out
of range from half a step below `2 ^ 1024` on.
-/

namespace RunCharts.Binary64

/-- The magnitude that a quotient is rounded to, before the range is looked at. -/
def rounded (num den : Nat) : Nat :=
  roundQuotient num (den * gridStep (num / den)) * gridStep (num / den)

/-- Magnitudes of at most 53 significant bits, without a limit to their size. -/
def IsShort (units : Nat) : Prop := ∃ m k, m ≤ significandLimit ∧ units = m * Nat.pow 2 k

def greatestStep : Nat := Nat.pow 2 (971 + unitExponent)

variable {num den num' den' u v : Nat} {negative : Bool}

theorem two_pow_add (m n : Nat) : Nat.pow 2 (m + n) = Nat.pow 2 m * Nat.pow 2 n := Nat.pow_add 2 m n

theorem two_pow_succ (n : Nat) : Nat.pow 2 (n + 1) = Nat.pow 2 n * 2 := Nat.pow_succ ..

theorem two_pow_dvd {m n : Nat} (h : m ≤ n) : Nat.pow 2 m ∣ Nat.pow 2 n := Nat.pow_dvd_pow 2 h

theorem two_pow_lt {m n : Nat} (h : m < n) : Nat.pow 2 m < Nat.pow 2 n :=
  Nat.pow_lt_pow_right (by decide) h

theorem two_pow_le {m n : Nat} (h : m ≤ n) : Nat.pow 2 m ≤ Nat.pow 2 n :=
  Nat.pow_le_pow_right (by decide) h

theorem isShort_rounded (num den : Nat) : IsShort (rounded num den) :=
  ⟨_, _, roundQuotient_gridStep_le num den, rfl⟩

theorem isShort_two_pow (k : Nat) : IsShort (Nat.pow 2 k) := by
  refine ⟨1, k, ?_, (Nat.one_mul _).symm⟩
  decide

theorem representable_rounded (h : rounded num den < overflowUnits) :
    Representable (rounded num den) := ⟨isShort_rounded num den, h⟩

theorem nearest_of_rounded_lt (h : rounded num den < overflowUnits) :
    nearest negative num den =
      .finite negative (rounded num den) (representable_rounded h) := by
  unfold nearest
  dsimp only
  split
  · rfl
  · rename_i hnot
    exact absurd h hnot

theorem nearest_of_le_rounded (h : overflowUnits ≤ rounded num den) :
    nearest negative num den = .infinite negative := by
  unfold nearest
  dsimp only
  split
  · rename_i hlt
    exact absurd hlt (Nat.not_lt.mpr h)
  · rfl

theorem isFinite_nearest_iff :
    (nearest negative num den).isFinite = true ↔ rounded num den < overflowUnits := by
  by_cases h : rounded num den < overflowUnits
  · rw [nearest_of_rounded_lt h]
    exact iff_of_true rfl h
  · rw [nearest_of_le_rounded (Nat.not_lt.mp h)]
    exact iff_of_false Bool.false_ne_true h

/-- A rounded quotient is at most a half below. -/
theorem two_mul_le_roundQuotient (num : Nat) (hden : 0 < den) :
    2 * num ≤ (2 * roundQuotient num den + 1) * den := by
  have hnum := Nat.div_add_mod' num den
  rw [Nat.add_mul, Nat.one_mul, Nat.mul_assoc]
  have hfloor := Nat.mul_le_mul_right den (le_roundQuotient num den)
  have hmod : num % den < den := Nat.mod_lt _ hden
  by_cases hhalf : 2 * (num % den) ≤ den
  · omega
  · have hup : roundQuotient num den = num / den + 1 := by
      rw [roundQuotient, if_neg (by omega), if_pos (by omega)]
    rw [hup, Nat.add_mul, Nat.one_mul]
    omega

/-- A rounded quotient is at most a half above. -/
theorem roundQuotient_le_two_mul (num den : Nat) :
    2 * (roundQuotient num den * den) ≤ 2 * num + den := by
  have hnum := Nat.div_add_mod' num den
  by_cases hhalf : 2 * (num % den) < den
  · rw [roundQuotient, if_pos hhalf]
    omega
  · have hle := Nat.mul_le_mul_right den (roundQuotient_le_succ num den)
    rw [Nat.add_mul, Nat.one_mul] at hle
    omega

theorem roundQuotient_lt_of_lt {n : Nat} (h : 2 * num < (2 * n - 1) * den) :
    roundQuotient num den < n := by
  have hle := roundQuotient_le_two_mul num den
  by_contra hnot
  have hmul := Nat.mul_le_mul_right den (Nat.not_lt.mp hnot)
  have hexpand : (2 * n - 1) * den = 2 * (n * den) - den := by
    rw [Nat.sub_mul, Nat.one_mul, Nat.mul_assoc]
  omega

theorem le_roundQuotient_of_lt {n : Nat} (hden : 0 < den) (h : (2 * n - 1) * den < 2 * num) :
    n ≤ roundQuotient num den := by
  have hle := two_mul_le_roundQuotient num hden
  by_contra hnot
  have hmul : (2 * roundQuotient num den + 1) * den ≤ (2 * n - 1) * den :=
    Nat.mul_le_mul_right den (by omega)
  omega

theorem roundQuotient_mono (h : num ≤ num') : roundQuotient num den ≤ roundQuotient num' den := by
  rcases Nat.lt_or_eq_of_le (Nat.div_le_div_right h : num / den ≤ num' / den) with hlt | heq
  · calc roundQuotient num den ≤ num / den + 1 := roundQuotient_le_succ num den
      _ ≤ num' / den := hlt
      _ ≤ roundQuotient num' den := le_roundQuotient num' den
  · have hnum := Nat.div_add_mod num den
    have hnum' := Nat.div_add_mod num' den
    rw [← heq] at hnum'
    have hmod : num % den ≤ num' % den := by omega
    simp only [roundQuotient, ← heq]
    repeat' split
    all_goals omega

theorem div_le_div_of_cross (hden : 0 < den) (hden' : 0 < den') (h : num * den' ≤ num' * den) :
    num / den ≤ num' / den' := by
  rw [Nat.le_div_iff_mul_le hden']
  apply Nat.le_of_mul_le_mul_right _ hden
  calc num / den * den' * den = num / den * den * den' := Nat.mul_right_comm _ _ _
    _ ≤ num * den' := Nat.mul_le_mul_right _ (Nat.div_mul_le_self num den)
    _ ≤ num' * den := h

/-- On one grid, quotients in order are rounded in order. -/
theorem roundQuotient_le_of_cross (hden : 0 < den) (hden' : 0 < den') (h : num * den' ≤ num' * den)
    (step : Nat) : roundQuotient num (den * step) ≤ roundQuotient num' (den' * step) := by
  have hcomm : den * step * den' = den' * step * den := by ring
  calc roundQuotient num (den * step) = roundQuotient (num * den') (den * step * den') :=
        (Decimal.roundQuotient_mul_right _ _ hden').symm
    _ ≤ roundQuotient (num' * den) (den * step * den') := roundQuotient_mono h
    _ = roundQuotient (num' * den) (den' * step * den) := by rw [hcomm]
    _ = roundQuotient num' (den' * step) := Decimal.roundQuotient_mul_right _ _ hden

theorem rounded_le (num den : Nat) : rounded num den ≤ significandLimit * gridStep (num / den) :=
  Nat.mul_le_mul_right _ (roundQuotient_gridStep_le num den)

/-- Above the finest grid, what is rounded fills 53 bits. -/
theorem le_rounded (h : 52 ≤ (num / den).log2) : Nat.pow 2 (num / den).log2 ≤ rounded num den := by
  have hne : num / den ≠ 0 := by
    intro hzero
    rw [hzero] at h
    exact absurd h (by decide)
  have hstep : Nat.pow 2 (num / den).log2 = 2 ^ 52 * gridStep (num / den) := by
    rw [gridStep, Nat.pow_eq, Nat.pow_eq, ← Nat.pow_add]
    congr 1
    omega
  have hquot : 2 ^ 52 ≤ num / (den * gridStep (num / den)) := by
    rw [← Nat.div_div_eq_div_mul, Nat.le_div_iff_mul_le (gridStep_pos _), ← hstep]
    exact Nat.log2_self_le hne
  rw [hstep]
  exact Nat.mul_le_mul_right _ (Nat.le_trans hquot (le_roundQuotient _ _))

theorem log2_le_log2 (h : u ≤ v) : u.log2 ≤ v.log2 := by
  by_cases hu : u = 0
  · rw [hu]
    exact Nat.zero_le _
  · rw [Nat.le_log2 (by omega)]
    exact Nat.le_trans (Nat.log2_self_le hu) h

/-- Quotients in order are rounded in order. -/
theorem rounded_mono (hden : 0 < den) (hden' : 0 < den') (h : num * den' ≤ num' * den) :
    rounded num den ≤ rounded num' den' := by
  have hquot := div_le_div_of_cross hden hden' h
  have hlog : (num / den).log2 ≤ (num' / den').log2 := log2_le_log2 hquot
  by_cases hsame : (num / den).log2 - 52 = (num' / den').log2 - 52
  · have hstep : gridStep (num / den) = gridStep (num' / den') := by rw [gridStep, gridStep, hsame]
    rw [rounded, rounded, ← hstep]
    exact Nat.mul_le_mul_right _ (roundQuotient_le_of_cross hden hden' h _)
  · -- the greater quotient is on a coarser grid, and a power of two lies between
    calc rounded num den ≤ significandLimit * gridStep (num / den) := rounded_le num den
      _ = Nat.pow 2 (53 + ((num / den).log2 - 52)) := (two_pow_add 53 _).symm
      _ ≤ Nat.pow 2 (num' / den').log2 := two_pow_le (by omega)
      _ ≤ rounded num' den' := le_rounded (by omega)

theorem rounded_of_isShort (h : IsShort u) : rounded u 1 = u := by
  obtain ⟨m, k, hm, rfl⟩ := h
  have hdvd := gridStep_dvd_of_significand k hm
  rw [rounded, Nat.div_one, Nat.one_mul, roundQuotient_of_dvd hdvd (gridStep_pos _),
    Nat.div_mul_cancel hdvd]

theorem gridStep_dvd_of_isShort (h : IsShort u) : gridStep u ∣ u := by
  obtain ⟨m, k, hm, rfl⟩ := h
  exact gridStep_dvd_of_significand k hm

theorem gridStep_dvd_gridStep (h : u ≤ v) : gridStep u ∣ gridStep v :=
  Nat.pow_dvd_pow 2 (Nat.sub_le_sub_right (log2_le_log2 h) 52)

theorem gridStep_eq {k : Nat} (hlow : Nat.pow 2 (52 + k) ≤ u) (hhigh : u < Nat.pow 2 (53 + k)) :
    gridStep u = Nat.pow 2 k := by
  have hne : u ≠ 0 := Nat.ne_of_gt (Nat.lt_of_lt_of_le (pow_pos (by decide) _) hlow)
  have hge : 52 + k ≤ u.log2 := (Nat.le_log2 hne).mpr hlow
  have hlt : u.log2 < 53 + k := (Nat.log2_lt hne).mpr hhigh
  rw [gridStep]
  congr 1
  omega

/-- A short magnitude is a multiple of every power of two that is 52 bits below it. -/
theorem two_pow_dvd_of_isShort {k : Nat} (h : IsShort u) (hle : Nat.pow 2 (52 + k) ≤ u) :
    Nat.pow 2 k ∣ u := by
  have hne : u ≠ 0 := Nat.ne_of_gt (Nat.lt_of_lt_of_le (pow_pos (by decide) _) hle)
  have hlog : 52 + k ≤ u.log2 := (Nat.le_log2 hne).mpr hle
  exact Nat.dvd_trans (two_pow_dvd (by omega)) (gridStep_dvd_of_isShort h)

/-- No short magnitude above a magnitude is nearer to it than its rounding. -/
theorem sub_rounded_le (hv : IsShort v) (h : u < v) : u - rounded u 1 ≤ v - u := by
  have hround : rounded u 1 = roundQuotient u (gridStep u) * gridStep u := by
    rw [rounded, Nat.div_one, Nat.one_mul]
  rcases Nat.lt_or_ge u (rounded u 1) with hlt | hge
  · omega
  · have hhalf := two_mul_le_roundQuotient u (gridStep_pos u)
    rw [Nat.add_mul, Nat.one_mul, Nat.mul_assoc, ← hround] at hhalf
    -- both lie on the grid of the lesser one, so they are a whole step apart
    have hdvd : gridStep u ∣ v - rounded u 1 := by
      apply Nat.dvd_sub
      · exact Nat.dvd_trans (gridStep_dvd_gridStep (Nat.le_of_lt h)) (gridStep_dvd_of_isShort hv)
      · rw [hround]
        exact Nat.dvd_mul_left _ _
    have hstep : gridStep u ≤ v - rounded u 1 := Nat.le_of_dvd (by omega) hdvd
    omega

/-- A quotient is not rounded below a short magnitude that it is not below. -/
theorem le_rounded_of_isShort (hv : IsShort v) (hden : 0 < den) (h : v * den ≤ num) :
    v ≤ rounded num den := by
  calc v = rounded v 1 := (rounded_of_isShort hv).symm
    _ ≤ rounded num den := rounded_mono Nat.one_pos hden (by rwa [Nat.mul_one])

theorem significandLimit_mul_greatestStep :
    significandLimit * greatestStep = Nat.pow 2 (53 + (971 + unitExponent)) := by
  unfold significandLimit greatestStep
  rw [two_pow_add 53 (971 + unitExponent)]

theorem overflowUnits_eq : overflowUnits = significandLimit * greatestStep := by
  rw [significandLimit_mul_greatestStep]
  unfold overflowUnits
  congr 1

theorem greatestStep_pos : 0 < greatestStep := by
  unfold greatestStep
  exact pow_pos (by decide) _

theorem div_lt_of_lt_middle (hden : 0 < den)
    (h : 2 * num < (2 * significandLimit - 1) * greatestStep * den) :
    num / den < significandLimit * greatestStep := by
  rw [Nat.div_lt_iff_lt_mul hden]
  have hlimit : (2 * significandLimit - 1) * greatestStep * den ≤
      2 * (significandLimit * greatestStep * den) := by
    rw [← Nat.mul_assoc, ← Nat.mul_assoc]
    exact Nat.mul_le_mul_right _ (Nat.mul_le_mul_right _ (Nat.sub_le _ _))
  omega

/-- At the upper end of the range the grid is as wide as it gets. -/
theorem gridStep_eq_greatestStep {n : Nat} (h : n < significandLimit * greatestStep)
    (htop : 971 + unitExponent ≤ n.log2 - 52) : gridStep n = greatestStep := by
  have hne : n ≠ 0 := by
    rintro rfl
    exact absurd htop (by decide)
  have hlog : n.log2 < 53 + (971 + unitExponent) := by
    rw [Nat.log2_lt hne, ← Nat.pow_eq, ← significandLimit_mul_greatestStep]
    exact h
  unfold gridStep greatestStep
  congr 1
  omega

/-- A quotient is in range if and only if it is below the middle between the greatest number and
`2 ^ 1024`. -/
theorem rounded_lt_overflowUnits_iff (hden : 0 < den) : rounded num den < overflowUnits ↔
    2 * num < (2 * significandLimit - 1) * greatestStep * den := by
  constructor
  · intro h
    by_contra hnot
    have hlimit : overflowUnits ≤ rounded ((2 * significandLimit - 1) * greatestStep) 2 := by
      decide +kernel
    have hmono : rounded ((2 * significandLimit - 1) * greatestStep) 2 ≤ rounded num den := by
      apply rounded_mono (by decide) hden
      omega
    omega
  · intro h
    rw [overflowUnits_eq]
    rcases Nat.lt_or_ge ((num / den).log2 - 52) (971 + unitExponent) with hlt | hge
    · have hstep : gridStep (num / den) < greatestStep := by
        unfold gridStep greatestStep
        exact two_pow_lt hlt
      calc rounded num den ≤ significandLimit * gridStep (num / den) := rounded_le num den
        _ < significandLimit * greatestStep := Nat.mul_lt_mul_of_pos_left hstep (by decide)
    · rw [rounded, gridStep_eq_greatestStep (div_lt_of_lt_middle hden h) hge]
      apply Nat.mul_lt_mul_of_pos_right _ greatestStep_pos
      apply roundQuotient_lt_of_lt
      rw [Nat.mul_comm den, ← Nat.mul_assoc]
      exact h

theorem isFinite_nearest_iff_lt (hden : 0 < den) : (nearest negative num den).isFinite = true ↔
    2 * num < (2 * significandLimit - 1) * greatestStep * den := by
  rw [isFinite_nearest_iff, rounded_lt_overflowUnits_iff hden]

end RunCharts.Binary64
