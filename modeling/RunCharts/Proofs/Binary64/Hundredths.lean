import RunCharts.Proofs.Binary64.Rounding

/-!
# Numbers rounded to hundredths

Rounding to hundredths leaves the range to no number that is in it, and brings none back.
-/

namespace RunCharts.Binary64

variable {x y : Binary64}

theorem unitsPerOne_le_greatestStep : unitsPerOne ≤ greatestStep := by
  unfold unitsPerOne greatestStep
  exact two_pow_le (Nat.le_add_left _ _)

theorem hundredths?_of_not_finite (h : x.isFinite = false) : hundredths? x = none := by
  cases x with
  | finite s u hu => cases h
  | infinite s => cases s <;> decide +kernel
  | nan => rfl

theorem toHundredths_of_not_finite (h : x.isFinite = false) : x.toHundredths = x := by
  rw [toHundredths, hundredths?_of_not_finite h]

theorem natAbs_floor_mul_le (s : Bool) (u : Nat) :
    (Int.fdiv (signedUnits s u) unitsPerOne).natAbs * unitsPerOne ≤ u + unitsPerOne := by
  have hpos : (0 : Int) < unitsPerOne := Int.natCast_pos.mpr unitsPerOne_pos
  rw [Int.fdiv_eq_ediv_of_nonneg _ (Int.le_of_lt hpos)]
  have hlow : signedUnits s u / unitsPerOne * unitsPerOne ≤ signedUnits s u :=
    Int.ediv_mul_le _ (Int.ne_of_gt hpos)
  have hhigh := Int.lt_ediv_add_one_mul_self (signedUnits s u) hpos
  have hbelow : signedUnits s u ≤ u := by cases s <;> simp only [signedUnits] <;> omega
  have habove : -(u : Int) ≤ signedUnits s u := by cases s <;> simp only [signedUnits] <;> omega
  rw [Int.add_mul, Int.one_mul] at hhigh
  generalize signedUnits s u / unitsPerOne = q at hlow hhigh
  rw [← Int.ofNat_le, Int.natCast_mul, Int.natCast_add]
  rcases Int.natAbs_eq q with hq | hq
  · rw [← hq]
    omega
  · rw [hq] at hhigh
    rw [Int.neg_mul] at hhigh
    omega

theorem isFinite_ofRatio_floor {s : Bool} {u : Nat} (h : u < overflowUnits) :
    (ofRatio (Int.fdiv (signedUnits s u) unitsPerOne) 100).isFinite = true := by
  rw [ofRatio, isFinite_nearest_iff_lt (by decide)]
  have hfloor := natAbs_floor_mul_le s u
  have hone := unitsPerOne_le_greatestStep
  have hpos := greatestStep_pos
  have hlimit : (2 * significandLimit - 1) * greatestStep =
      2 * (significandLimit * greatestStep) - greatestStep := by
    rw [Nat.sub_mul, Nat.one_mul, Nat.mul_assoc]
  have hwide : greatestStep * 2 ≤ significandLimit * greatestStep := by
    rw [Nat.mul_comm]
    exact Nat.mul_le_mul_right _ (by decide)
  rw [hlimit]
  rw [overflowUnits_eq] at h
  omega

/-- Rounding to hundredths keeps what is finite finite, and nothing else. -/
theorem isFinite_toHundredths (x : Binary64) : x.toHundredths.isFinite = x.isFinite := by
  cases hx : x.isFinite with
  | false => rw [toHundredths_of_not_finite hx, hx]
  | true =>
    unfold toHundredths hundredths?
    cases (x.mul hundred).add half with
    | finite s u hu => exact isFinite_ofRatio_floor hu.2
    | infinite s => exact hx
    | nan => exact hx

/-- A product of finite numbers is finite below the limit of the range. -/
theorem isFinite_mul_iff (hx : x.isFinite = true) (hy : y.isFinite = true) :
    (x.mul y).isFinite = true ↔ 2 * (x.units.natAbs * y.units.natAbs) <
      (2 * significandLimit - 1) * greatestStep * unitsPerOne := by
  cases x with
  | finite s u hu =>
    cases y with
    | finite t v hv =>
      have hunits : (units (.finite s u hu)).natAbs = u := by cases s <;> simp [units, signedUnits]
      have hunits' : (units (.finite t v hv)).natAbs = v := by cases t <;> simp [units, signedUnits]
      rw [hunits, hunits', mul, isFinite_nearest_iff_lt unitsPerOne_pos]
    | infinite t => cases hy
    | nan => cases hy
  | infinite s => cases hx
  | nan => cases hx

theorem not_isFinite_mul (hy : y.isFinite = false) (x : Binary64) :
    (x.mul y).isFinite = false := by
  cases y with
  | finite t v hv => cases hy
  | infinite t =>
    cases x with
    | finite s u hu =>
      rw [mul]
      split <;> rfl
    | infinite s => rfl
    | nan => rfl
  | nan => cases x <;> rfl

/-! ### Magnitudes -/

def halfUnits : Nat := Nat.pow 2 (unitExponent - 1)

def scaled (u : Nat) : Nat := rounded (u * 100) 1

/-- Whether a magnitude can be scaled to hundredths. -/
structure IsScalable (u : Nat) : Prop where
  scaled_lt : scaled u < overflowUnits
  shifted_lt : rounded (scaled u + halfUnits) 1 < overflowUnits

def hundredthsOf (u : Nat) : Nat := rounded (scaled u + halfUnits) 1 / unitsPerOne

def snapped (u : Nat) : Nat := rounded (hundredthsOf u * unitsPerOne) 100

variable {u v n : Nat}

theorem unitsPerOne_eq : unitsPerOne = halfUnits * 2 := by
  have hexponent : unitExponent - 1 + 1 = unitExponent := rfl
  have hpow := two_pow_succ (unitExponent - 1)
  rw [hexponent] at hpow
  unfold unitsPerOne halfUnits
  exact hpow

theorem significandLimit_mul_halfUnits :
    significandLimit * halfUnits = Nat.pow 2 (52 + unitExponent) := by
  unfold significandLimit halfUnits
  rw [← two_pow_add]
  congr 1

theorem halfUnits_pos : 0 < halfUnits := by
  unfold halfUnits
  exact pow_pos (by decide) _

theorem isShort_mul_unitsPerOne (h : n ≤ significandLimit) : IsShort (n * unitsPerOne) := by
  refine ⟨n, unitExponent, h, ?_⟩
  unfold unitsPerOne
  rfl

theorem isShort_mul_halfUnits (h : n ≤ significandLimit) : IsShort (n * halfUnits) := by
  refine ⟨n, unitExponent - 1, h, ?_⟩
  unfold halfUnits
  rfl

theorem ofInt_natCast (n : Nat) : ofInt n = nearest false (n * unitsPerOne) 1 := by
  rw [ofInt, decide_eq_false (by omega), Int.natAbs_natCast]

theorem ofRatio_natCast (n d : Nat) : ofRatio n d = nearest false (n * unitsPerOne) d := by
  rw [ofRatio, decide_eq_false (by omega), Int.natAbs_natCast]

theorem hundred_eq : ∃ h, hundred = .finite false (100 * unitsPerOne) h := by
  have hrange : 100 * unitsPerOne < overflowUnits := by decide +kernel
  have hrepresentable : Representable (100 * unitsPerOne) :=
    ⟨isShort_mul_unitsPerOne (by decide), hrange⟩
  have hnearest := nearest_of_representable hrepresentable false
  exact ⟨hrepresentable, (ofInt_natCast 100).trans hnearest⟩

theorem half_eq : ∃ h, half = .finite false halfUnits h := by
  have hrange : halfUnits < overflowUnits := by decide +kernel
  have hrepresentable : Representable halfUnits := by
    refine ⟨?_, hrange⟩
    unfold halfUnits
    exact isShort_two_pow _
  have hnearest := nearest_of_representable hrepresentable false
  have hscale := Decimal.nearest_mul_right false halfUnits 1 (c := 2) (by decide)
  rw [hnearest, Nat.one_mul, ← unitsPerOne_eq, ← Nat.one_mul unitsPerOne] at hscale
  exact ⟨_, (ofRatio_natCast 1 2).trans hscale⟩

theorem mul_hundred (u : Nat) (hu : Representable u) :
    (finite false u hu).mul hundred = nearest false (u * 100) 1 := by
  obtain ⟨h, hhundred⟩ := hundred_eq
  have hproduct := Decimal.nearest_mul_right false (u * 100) 1 unitsPerOne_pos
  rw [Nat.one_mul, Nat.mul_assoc] at hproduct
  rw [hhundred, mul]
  exact hproduct

theorem add_half (u : Nat) (hu : Representable u) :
    (finite false u hu).add half = nearest false (u + halfUnits) 1 := by
  obtain ⟨h, hhalf⟩ := half_eq
  have hpos := halfUnits_pos
  have hsum : signedUnits false u + signedUnits false halfUnits =
      ((u + halfUnits : Nat) : Int) := (Int.natCast_add u halfUnits).symm
  rw [hhalf, add, hsum, if_neg (by omega), decide_eq_false (by omega), Int.natAbs_natCast]

theorem representable_scaled (h : scaled u < overflowUnits) : Representable (scaled u) :=
  representable_rounded h

theorem nearest_scaled (h : scaled u < overflowUnits) :
    nearest false (u * 100) 1 = .finite false (scaled u) (representable_scaled h) :=
  nearest_of_rounded_lt h

theorem hundredths?_of_isScalable (hu : Representable u) (h : IsScalable u) :
    hundredths? (finite false u hu) = some (hundredthsOf u : Int) := by
  rw [hundredths?, mul_hundred, nearest_scaled h.scaled_lt, add_half,
    nearest_of_rounded_lt h.shifted_lt, floor?, signedUnits, if_neg Bool.false_ne_true,
    Int.fdiv_eq_ediv_of_nonneg _ (Int.natCast_nonneg _)]
  rfl

theorem hundredths?_of_not_isScalable (hu : Representable u) (h : ¬ IsScalable u) :
    hundredths? (finite false u hu) = none := by
  rw [hundredths?, mul_hundred]
  rcases Nat.lt_or_ge (scaled u) overflowUnits with hlt | hge
  · have hsum : overflowUnits ≤ rounded (scaled u + halfUnits) 1 := by
      by_contra hnot
      exact h ⟨hlt, Nat.not_le.mp hnot⟩
    rw [nearest_scaled hlt, add_half, nearest_of_le_rounded hsum]
    rfl
  · rw [nearest_of_le_rounded hge]
    decide +kernel

theorem toHundredths_of_not_isScalable (hu : Representable u) (h : ¬ IsScalable u) :
    (finite false u hu).toHundredths = finite false u hu := by
  rw [toHundredths, hundredths?_of_not_isScalable hu h]

theorem exists_toHundredths_of_isScalable (hu : Representable u) (h : IsScalable u) :
    ∃ hs, (finite false u hu).toHundredths = finite false (snapped u) hs := by
  have hratio : (finite false u hu).toHundredths =
      nearest false (hundredthsOf u * unitsPerOne) 100 := by
    rw [toHundredths, hundredths?_of_isScalable hu h]
    exact ofRatio_natCast _ 100
  have hfinite := isFinite_toHundredths (finite false u hu)
  rw [hratio] at hfinite
  rw [hratio, nearest_of_rounded_lt (isFinite_nearest_iff.mp hfinite)]
  exact ⟨_, rfl⟩

/-! ### The order of what is rounded -/

theorem scaled_mono (h : u ≤ v) : scaled u ≤ scaled v := by
  apply rounded_mono Nat.one_pos Nat.one_pos
  rw [Nat.mul_one, Nat.mul_one]
  exact Nat.mul_le_mul_right 100 h

theorem shifted_mono (h : u ≤ v) :
    rounded (scaled u + halfUnits) 1 ≤ rounded (scaled v + halfUnits) 1 := by
  have hscaled := scaled_mono h
  apply rounded_mono Nat.one_pos Nat.one_pos
  omega

theorem IsScalable.mono (h : IsScalable v) (huv : u ≤ v) : IsScalable u :=
  ⟨Nat.lt_of_le_of_lt (scaled_mono huv) h.scaled_lt,
    Nat.lt_of_le_of_lt (shifted_mono huv) h.shifted_lt⟩

theorem rounded_hundred_mono (h : u ≤ v) : rounded u 100 ≤ rounded v 100 :=
  rounded_mono (by decide) (by decide) (Nat.mul_le_mul_right 100 h)

theorem snapped_mono (h : u ≤ v) : snapped u ≤ snapped v := by
  apply rounded_hundred_mono
  exact Nat.mul_le_mul_right _ (Nat.div_le_div_right (shifted_mono h))

/-- The whole part of a short magnitude is short. -/
theorem isShort_whole (h : IsShort u) : IsShort (u / unitsPerOne * unitsPerOne) := by
  obtain ⟨m, k, hm, rfl⟩ := h
  rcases Nat.lt_or_ge k unitExponent with hlt | hge
  · apply isShort_mul_unitsPerOne
    apply Nat.div_le_of_le_mul
    rw [Nat.mul_comm unitsPerOne]
    apply Nat.mul_le_mul hm
    unfold unitsPerOne
    exact two_pow_le (Nat.le_of_lt hlt)
  · have hdvd : unitsPerOne ∣ m * Nat.pow 2 k := by
      unfold unitsPerOne
      exact Nat.dvd_trans (two_pow_dvd hge) (Nat.dvd_mul_left _ _)
    rw [Nat.div_mul_cancel hdvd]
    exact ⟨m, k, hm, rfl⟩

/-- A whole magnitude that is reached before the floor is not lost by it. -/
theorem le_hundredthsOf (hn : IsShort (n * unitsPerOne))
    (h : n * unitsPerOne ≤ scaled u + halfUnits) : n ≤ hundredthsOf u := by
  unfold hundredthsOf
  rw [Nat.le_div_iff_mul_le unitsPerOne_pos]
  apply le_rounded_of_isShort hn Nat.one_pos
  rwa [Nat.mul_one]

/-- What is scaled to a multiple of a half is not rounded down. -/
theorem scaled_le_hundredthsOf (h : halfUnits ∣ scaled u) :
    scaled u ≤ hundredthsOf u * unitsPerOne := by
  obtain ⟨k, hk⟩ := h
  have hshort : IsShort (scaled u) := isShort_rounded _ _
  obtain ⟨j, rfl | rfl⟩ : ∃ j, k = 2 * j ∨ k = 2 * j + 1 := ⟨k / 2, by omega⟩
  · have hwhole : scaled u = j * unitsPerOne := by
      rw [hk, unitsPerOne_eq]
      ring
    rw [hwhole] at hshort
    have hle : j ≤ hundredthsOf u := le_hundredthsOf hshort (by omega)
    rw [hwhole]
    exact Nat.mul_le_mul_right _ hle
  · have hshifted : (j + 1) * unitsPerOne = scaled u + halfUnits := by
      rw [hk, unitsPerOne_eq]
      ring
    -- an odd number of halves has no room for more than 53 bits
    have hsmall : 2 * j + 1 < significandLimit := by
      by_contra hnot
      have hge : Nat.pow 2 (52 + unitExponent) ≤ scaled u := by
        rw [hk, ← significandLimit_mul_halfUnits, Nat.mul_comm]
        exact Nat.mul_le_mul_left _ (Nat.not_lt.mp hnot)
      have hdvd : unitsPerOne ∣ scaled u := by
        unfold unitsPerOne
        exact two_pow_dvd_of_isShort hshort hge
      rw [hk, unitsPerOne_eq] at hdvd
      have := Nat.dvd_of_mul_dvd_mul_left halfUnits_pos hdvd
      omega
    have hle : j + 1 ≤ hundredthsOf u := by
      apply le_hundredthsOf
      · apply isShort_mul_unitsPerOne
        omega
      · omega
    have hmul := Nat.mul_le_mul_right unitsPerOne hle
    omega

/-- The rounding of a hundredth lies within half a step, so that much is missing at most. -/
theorem sub_mul_hundred_le (n : Nat) :
    n - rounded n 100 * 100 ≤ 50 * gridStep (n / 100) := by
  have hstep := gridStep_pos (n / 100)
  have hpos : 0 < 100 * gridStep (n / 100) := by omega
  have hle := two_mul_le_roundQuotient n hpos
  have hround : (2 * roundQuotient n (100 * gridStep (n / 100)) + 1) * (100 * gridStep (n / 100)) =
      200 * rounded n 100 + 100 * gridStep (n / 100) := by
    rw [rounded]
    ring
  omega

theorem gridStep_hundredth_le (hn : 2 * n ≤ significandLimit) :
    64 * gridStep (n * unitsPerOne / 100) ≤ halfUnits := by
  rcases Nat.eq_zero_or_pos (n * unitsPerOne / 100) with hzero | hpos
  · rw [hzero]
    decide +kernel
  · have hpow : Nat.pow 2 (46 + unitExponent) * 64 = significandLimit * halfUnits := by
      rw [significandLimit_mul_halfUnits]
      have hsix : Nat.pow 2 6 = 64 := rfl
      rw [← hsix, ← two_pow_add]
      congr 1
    have hsize : n * unitsPerOne ≤ significandLimit * halfUnits := by
      calc n * unitsPerOne = 2 * n * halfUnits := by
            rw [unitsPerOne_eq]
            ring
        _ ≤ significandLimit * halfUnits := Nat.mul_le_mul_right _ hn
    have hlog : (n * unitsPerOne / 100).log2 < 46 + unitExponent := by
      rw [Nat.log2_lt (Nat.ne_of_gt hpos), ← Nat.pow_eq]
      generalize Nat.pow 2 (46 + unitExponent) = limit at hpow ⊢
      omega
    have hhalf : halfUnits = 64 * Nat.pow 2 (unitExponent - 7) := by
      have hsix : Nat.pow 2 6 = 64 := rfl
      unfold halfUnits
      rw [← hsix, ← two_pow_add]
      congr 1
    rw [hhalf]
    apply Nat.mul_le_mul_left
    apply two_pow_le
    have hexponent : unitExponent = 1074 := rfl
    omega

/-- Hundredths of at most 53 bits: what is scaled back is less than a half away. -/
theorem le_shifted_of_small (hn : 2 * n ≤ significandLimit) :
    n * unitsPerOne ≤ scaled (rounded (n * unitsPerOne) 100) + halfUnits := by
  have hstep := gridStep_hundredth_le hn
  have hmissing := sub_mul_hundred_le (n * unitsPerOne)
  rcases Nat.eq_zero_or_pos n with rfl | hpos
  · omega
  · have hwhole : n * unitsPerOne = (2 * n - 1) * halfUnits + halfUnits := by
      rw [unitsPerOne_eq, Nat.sub_mul, Nat.one_mul]
      have : halfUnits ≤ 2 * n * halfUnits := Nat.le_mul_of_pos_left _ (by omega)
      rw [Nat.sub_add_cancel this]
      ring
    have hscaled : (2 * n - 1) * halfUnits ≤ scaled (rounded (n * unitsPerOne) 100) := by
      apply le_rounded_of_isShort (isShort_mul_halfUnits (by omega)) Nat.one_pos
      omega
    omega

/-- A short magnitude is not in the middle between the hundredfold of two neighbours. -/
theorem ne_middle {k : Nat} (hn : IsShort n) (hlow : Nat.pow 2 (52 + k) ≤ n / 100) (q : Nat) :
    n ≠ q * Nat.pow 2 k * 100 + 50 * Nat.pow 2 k := by
  intro hmiddle
  have hfour : Nat.pow 2 (k + 2) = Nat.pow 2 k * 4 := two_pow_add k 2
  have hdvd : Nat.pow 2 (k + 2) ∣ n := by
    apply two_pow_dvd_of_isShort hn
    have hsize : Nat.pow 2 (52 + k + 2) = Nat.pow 2 (52 + k) * 4 := two_pow_add (52 + k) 2
    rw [← Nat.add_assoc, hsize]
    omega
  have hodd : n = Nat.pow 2 k * (50 * (2 * q + 1)) := by
    rw [hmiddle]
    ring
  rw [hfour, hodd] at hdvd
  have hfactor := Nat.dvd_of_mul_dvd_mul_left (pow_pos (by decide) k) hdvd
  omega

theorem isShort_hundred_mul (k : Nat) : IsShort (Nat.pow 2 52 * Nat.pow 2 k * 100) := by
  refine ⟨25, 54 + k, by decide, ?_⟩
  have hpow : Nat.pow 2 54 = Nat.pow 2 52 * 4 := two_pow_add 52 2
  rw [two_pow_add, hpow]
  ring

/-- What is less than half a step below a neighbour is rounded to it. -/
theorem le_rounded_of_near {k q : Nat} (hlow : Nat.pow 2 52 < q) (hhigh : q ≤ significandLimit)
    (habove : (2 * q - 1) * (100 * Nat.pow 2 k) < 2 * u) (hbelow : u < q * Nat.pow 2 k * 100) :
    q * Nat.pow 2 k ≤ rounded u 100 := by
  have hpos : 0 < Nat.pow 2 k := pow_pos (by decide) k
  have hstep : gridStep (u / 100) = Nat.pow 2 k := by
    apply gridStep_eq
    · rw [two_pow_add, Nat.le_div_iff_mul_le (by decide)]
      have hmul : 2 * Nat.pow 2 52 * (100 * Nat.pow 2 k) ≤ (2 * q - 1) * (100 * Nat.pow 2 k) :=
        Nat.mul_le_mul_right _ (by omega)
      have hexpand : 2 * Nat.pow 2 52 * (100 * Nat.pow 2 k) =
          2 * (Nat.pow 2 52 * Nat.pow 2 k * 100) := by ring
      omega
    · rw [two_pow_add, Nat.div_lt_iff_lt_mul (by decide)]
      exact Nat.lt_of_lt_of_le hbelow (Nat.mul_le_mul_right _ (Nat.mul_le_mul_right _ hhigh))
  rw [rounded, hstep]
  exact Nat.mul_le_mul_right _ (le_roundQuotient_of_lt (by omega) habove)

/-- What is missing of a hundredfold after scaling is not enough to reach the next neighbour. -/
theorem le_rounded_scaled_of_near {k q : Nat} (hlow : Nat.pow 2 52 ≤ q)
    (hhigh : q ≤ significandLimit)
    (hmissing : q * Nat.pow 2 k * 100 - scaled (q * Nat.pow 2 k) < 50 * Nat.pow 2 k)
    (hbelow : scaled (q * Nat.pow 2 k) < q * Nat.pow 2 k * 100) :
    q * Nat.pow 2 k ≤ rounded (scaled (q * Nat.pow 2 k)) 100 := by
  rcases Nat.lt_or_eq_of_le hlow with hlt | rfl
  · apply le_rounded_of_near hlt hhigh _ hbelow
    have hexpand : (2 * q - 1) * (100 * Nat.pow 2 k) =
        200 * (q * Nat.pow 2 k) - 100 * Nat.pow 2 k := by
      rw [Nat.sub_mul, Nat.one_mul]
      congr 1
      ring
    have hle : Nat.pow 2 k ≤ q * Nat.pow 2 k := Nat.le_mul_of_pos_left _ (by omega)
    omega
  · rw [scaled, rounded_of_isShort (isShort_hundred_mul k)] at hbelow
    exact absurd hbelow (Nat.lt_irrefl _)

/-- Above the finest grid, a short magnitude that is divided by a hundred and scaled back divides to
the same again, though rounding may have lost some of it. -/
theorem le_rounded_scaled (hn : IsShort n) (hlog : 52 ≤ (n / 100).log2)
    (hlost : rounded n 100 * 100 < n) :
    rounded n 100 ≤ rounded (scaled (rounded n 100)) 100 := by
  obtain ⟨k, hk⟩ : ∃ k, (n / 100).log2 = 52 + k := ⟨(n / 100).log2 - 52, by omega⟩
  have hpos : n / 100 ≠ 0 := by
    intro hzero
    rw [hzero] at hlog
    exact absurd hlog (by decide)
  have hlow : Nat.pow 2 (52 + k) ≤ n / 100 := (Nat.le_log2 hpos).mp (by omega)
  have hhigh : n / 100 < Nat.pow 2 (53 + k) := (Nat.log2_lt hpos).mp (by omega)
  have hstep : gridStep (n / 100) = Nat.pow 2 k := gridStep_eq hlow hhigh
  have hgrid : rounded n 100 = roundQuotient n (100 * Nat.pow 2 k) * Nat.pow 2 k := by
    rw [rounded, hstep]
  rcases Nat.lt_or_ge (scaled (rounded n 100)) (rounded n 100 * 100) with hlt | hge
  · have hback : rounded n 100 * 100 - scaled (rounded n 100) ≤ n - rounded n 100 * 100 :=
      sub_rounded_le hn hlost
    have hmissing := sub_mul_hundred_le n
    have hmiddle := ne_middle hn hlow (roundQuotient n (100 * Nat.pow 2 k))
    rw [hstep] at hmissing
    rw [hgrid] at hlt hback hmissing ⊢
    apply le_rounded_scaled_of_near _ _ _ hlt
    · have hle := le_rounded hlog
      rw [hk, hgrid, two_pow_add] at hle
      exact Nat.le_of_mul_le_mul_right hle (pow_pos (by decide) k)
    · rw [← hstep]
      exact roundQuotient_gridStep_le n 100
    · omega
  · exact le_rounded_of_isShort (isShort_rounded n 100) (by decide) hge

theorem unitsPerOne_mul_le (hlarge : significandLimit < 2 * n) :
    Nat.pow 2 (52 + unitExponent) ≤ n * unitsPerOne := by
  rw [← significandLimit_mul_halfUnits, unitsPerOne_eq]
  calc significandLimit * halfUnits ≤ 2 * n * halfUnits :=
        Nat.mul_le_mul_right _ (Nat.le_of_lt hlarge)
    _ = n * (halfUnits * 2) := by ring

theorem le_log2_hundredth (hlarge : Nat.pow 2 (52 + unitExponent) ≤ n) :
    52 ≤ (n / 100).log2 := by
  have hpow : Nat.pow 2 (52 + 7) ≤ n := Nat.le_trans (two_pow_le (by decide)) hlarge
  have hseven : Nat.pow 2 (52 + 7) = 2 ^ 52 * 128 := two_pow_add 52 7
  have hquot : 2 ^ 52 ≤ n / 100 := by
    rw [Nat.le_div_iff_mul_le (by decide)]
    omega
  exact (Nat.le_log2 (by omega)).mpr hquot

/-- From `2 ^ 52` on, what is scaled is a multiple of a half. -/
theorem halfUnits_dvd_scaled (hlarge : Nat.pow 2 (52 + unitExponent) ≤ n) :
    halfUnits ∣ scaled (rounded n 100) := by
  have hexponent : 52 + (unitExponent - 1) + 1 = 52 + unitExponent := rfl
  have hpow := two_pow_succ (52 + (unitExponent - 1))
  rw [hexponent] at hpow
  have hmissing := sub_mul_hundred_le n
  have hquot : 0 < n / 100 := by
    rcases Nat.eq_zero_or_pos (n / 100) with hzero | hpos
    · have hlog := le_log2_hundredth hlarge
      rw [hzero] at hlog
      exact absurd hlog (by decide)
    · exact hpos
  have hstep : gridStep (n / 100) ≤ n / 100 := gridStep_le hquot
  have hsize : Nat.pow 2 (52 + (unitExponent - 1)) ≤ rounded n 100 * 100 := by
    generalize Nat.pow 2 (52 + unitExponent) = limit at hlarge hpow
    omega
  have hscaled : Nat.pow 2 (52 + (unitExponent - 1)) ≤ scaled (rounded n 100) := by
    apply le_rounded_of_isShort (isShort_two_pow _) Nat.one_pos
    rwa [Nat.mul_one]
  unfold halfUnits
  exact two_pow_dvd_of_isShort (isShort_rounded _ _) hscaled

/-- Rounding hundredths to a number and that number to hundredths again does not go down. -/
theorem rounded_le_snapped (hn : IsShort (n * unitsPerOne)) :
    rounded (n * unitsPerOne) 100 ≤ snapped (rounded (n * unitsPerOne) 100) := by
  have hreached : n * unitsPerOne ≤ scaled (rounded (n * unitsPerOne) 100) + halfUnits →
      rounded (n * unitsPerOne) 100 ≤ snapped (rounded (n * unitsPerOne) 100) := by
    intro hle
    exact rounded_hundred_mono (Nat.mul_le_mul_right _ (le_hundredthsOf hn hle))
  rcases Nat.lt_or_ge (rounded (n * unitsPerOne) 100 * 100) (n * unitsPerOne) with hlost | hkept
  · rcases Nat.lt_or_ge significandLimit (2 * n) with hlarge | hsmall
    · have hsize := unitsPerOne_mul_le hlarge
      calc rounded (n * unitsPerOne) 100
          ≤ rounded (scaled (rounded (n * unitsPerOne) 100)) 100 :=
            le_rounded_scaled hn (le_log2_hundredth hsize) hlost
        _ ≤ snapped (rounded (n * unitsPerOne) 100) :=
            rounded_hundred_mono (scaled_le_hundredthsOf (halfUnits_dvd_scaled hsize))
    · exact hreached (le_shifted_of_small hsmall)
  · apply hreached
    have hscaled : n * unitsPerOne ≤ scaled (rounded (n * unitsPerOne) 100) := by
      apply le_rounded_of_isShort hn Nat.one_pos
      rwa [Nat.mul_one]
    omega

/-! ### Numbers -/

def IsRounded (x : Binary64) : Prop := ∃ y : Binary64, y.isFinite = true ∧ x = y.toHundredths

theorem IsRounded.isFinite (h : IsRounded x) : x.isFinite = true := by
  obtain ⟨y, hy, rfl⟩ := h
  rw [isFinite_toHundredths, hy]

theorem IsRounded.isCanonical (h : IsRounded x) : x.IsCanonical := by
  refine ⟨h.isFinite, ?_⟩
  obtain ⟨y, -, rfl⟩ := h
  exact toHundredths_ne_zero_true y

/-- The floor of a number has at most 53 bits, unless it is below zero. -/
theorem isShort_natAbs_floor {i : Int} (hfloor : x.floor? = some i) (hi : 0 ≤ i) :
    IsShort (i.natAbs * unitsPerOne) := by
  cases x with
  | finite s u hu =>
    rw [floor?, Int.fdiv_eq_ediv_of_nonneg _ (Int.natCast_nonneg _)] at hfloor
    cases hfloor
    cases s with
    | false =>
      have hwhole : (signedUnits false u / (unitsPerOne : Int)).natAbs = u / unitsPerOne := rfl
      rw [hwhole]
      exact isShort_whole hu.1
    | true =>
      have hpos : (0 : Int) < unitsPerOne := Int.natCast_pos.mpr unitsPerOne_pos
      have hnonpos : signedUnits true u ≤ 0 := Int.neg_nonpos_of_nonneg (Int.natCast_nonneg u)
      have hle : signedUnits true u / (unitsPerOne : Int) ≤ 0 := by
        apply Int.ediv_le_of_le_mul hpos
        rwa [Int.zero_mul]
      have hzero : signedUnits true u / (unitsPerOne : Int) = 0 := Int.le_antisymm hle hi
      rw [hzero]
      exact isShort_mul_unitsPerOne (Nat.zero_le _)
  | infinite s => cases hfloor
  | nan => cases hfloor

theorem le_snapped_of_isRounded {hu : Representable u} (h : IsRounded (finite false u hu))
    (hscalable : IsScalable u) : u ≤ snapped u := by
  obtain ⟨y, -, heq⟩ := h
  unfold toHundredths at heq
  cases hy : hundredths? y with
  | none =>
    rw [hy] at heq
    dsimp only at heq
    rw [← heq, hundredths?_of_isScalable hu hscalable] at hy
    cases hy
  | some i =>
    rw [hy] at heq
    have hratio : finite false u hu = nearest (i < 0) (i.natAbs * unitsPerOne) 100 := heq
    rcases nearest_cases (i < 0) (i.natAbs * unitsPerOne) 100 with ⟨h, hfinite⟩ | hinfinite
    · rw [hfinite] at hratio
      obtain ⟨hsign, hunits⟩ := finite.inj hratio
      have hi : 0 ≤ i := by
        have hnot := of_decide_eq_false hsign.symm
        omega
      have hu : u = rounded (i.natAbs * unitsPerOne) 100 := hunits
      rw [hu]
      exact rounded_le_snapped (isShort_natAbs_floor hy hi)
    · rw [hinfinite] at hratio
      cases hratio

theorem exists_finite_of_nonneg (hx : x.IsCanonical) (h : 0 ≤ x.units) :
    ∃ u hu, x = finite false u hu := by
  obtain ⟨hfinite, hzero⟩ := hx
  cases x with
  | finite s u hu =>
    cases s with
    | false => exact ⟨u, hu, rfl⟩
    | true =>
      have hu0 : u = 0 := by
        simp only [units, signedUnits, if_true] at h
        omega
      subst hu0
      exact absurd finite_zero_eq hzero
  | infinite s => cases hfinite
  | nan => cases hfinite

/-- A number that is not below a rounded one is not below it after rounding, above zero. -/
theorem units_le_toHundredths (hx : IsRounded x) (h : 0 ≤ x.units) {v : Nat}
    (hv : Representable v) (hle : x.units ≤ v) :
    x.units ≤ (finite false v hv).toHundredths.units := by
  obtain ⟨u, hu, rfl⟩ := exists_finite_of_nonneg hx.isCanonical h
  have huv : u ≤ v := Int.ofNat_le.mp hle
  by_cases hscalable : IsScalable v
  · obtain ⟨hs, hround⟩ := exists_toHundredths_of_isScalable hv hscalable
    rw [hround]
    apply Int.ofNat_le.mpr
    exact Nat.le_trans (le_snapped_of_isRounded hx (hscalable.mono huv)) (snapped_mono huv)
  · rw [toHundredths_of_not_isScalable hv hscalable]
    exact hle

end RunCharts.Binary64
