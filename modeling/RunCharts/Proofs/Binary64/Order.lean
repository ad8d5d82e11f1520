import RunCharts.Binary64.Hundredths

/-!
# The order of finite numbers

Finite numbers are in the order of their units. Two of them that are level are the same number, the
two zeros apart; numbers rounded to hundredths are never the negative zero, so among them level and
equal are one.
-/

namespace RunCharts.Binary64

/-- How many units a finite number counts, with its sign. -/
def units : Binary64 → Int
  | finite s u _ => signedUnits s u
  | _ => 0

theorem dvd_signedUnits_iff {s : Bool} {u d : Nat} : (d : Int) ∣ signedUnits s u ↔ u % d = 0 := by
  cases s <;> simp [signedUnits, Int.natCast_dvd_natCast, Nat.dvd_iff_mod_eq_zero]

theorem signedUnits_div {s : Bool} {u d : Nat} (h : u % d = 0) :
    signedUnits s u / (d : Int) = signedUnits s (u / d) := by
  cases s with
  | false => simp [signedUnits]
  | true =>
    have hdvd : (d : Int) ∣ u := Int.natCast_dvd_natCast.mpr (Nat.dvd_of_mod_eq_zero h)
    simp [signedUnits, Int.neg_ediv_of_dvd hdvd]

/-- A number is an integer where the unit of the integers divides it. -/
theorem toInt?_eq (x : Binary64) : x.toInt? =
    if x.isFinite = true ∧ (unitsPerOne : Int) ∣ x.units then some (x.units / unitsPerOne)
    else none := by
  cases x with
  | finite s u hu =>
    simp only [toInt?, isFinite, units, true_and, dvd_signedUnits_iff]
    split
    · rename_i h
      rw [signedUnits_div h]
    · rfl
  | infinite s => rfl
  | nan => rfl

theorem lt_iff_units {x y : Binary64} (hx : x.isFinite = true) (hy : y.isFinite = true) :
    x.lt y = true ↔ x.units < y.units := by
  cases x with
  | finite s u hu =>
    cases y with
    | finite t v hv => rw [lt, decide_eq_true_iff]; rfl
    | infinite t => cases hy
    | nan => cases hy
  | infinite s => cases hx
  | nan => cases hx

theorem not_lt_iff_units {x y : Binary64} (hx : x.isFinite = true) (hy : y.isFinite = true) :
    x.lt y = false ↔ y.units ≤ x.units := by
  rw [← Bool.not_eq_true, lt_iff_units hx hy, Int.not_lt]

theorem isAtLeast_iff_units {x y : Binary64} (hx : x.isFinite = true) (hy : y.isFinite = true) :
    x.isAtLeast y = true ↔ y.units ≤ x.units := by
  rw [← not_lt_iff_units hx hy]
  cases x with
  | finite s u hu =>
    cases y with
    | finite t v hv =>
      rw [isAtLeast]
      simp
    | infinite t => cases hy
    | nan => cases hy
  | infinite s => cases hx
  | nan => cases hx

theorem finite_zero_eq {s : Bool} {hu : Representable 0} : finite s 0 hu = zero s := rfl

theorem finite_eq_zero {s t : Bool} {u : Nat} {hu : Representable u} (h : finite s u hu = zero t) :
    s = t ∧ u = 0 := finite.inj h

theorem signedUnits_inj {s t : Bool} {u v : Nat} (h : signedUnits s u = signedUnits t v) :
    u = v ∧ (s = t ∨ u = 0) := by
  cases s <;> cases t <;> simp only [signedUnits, Bool.false_eq_true, if_true, if_false] at h
  · exact ⟨by omega, .inl rfl⟩
  · exact ⟨by omega, .inr (by omega)⟩
  · exact ⟨by omega, .inr (by omega)⟩
  · exact ⟨by omega, .inl rfl⟩

def IsCanonical (x : Binary64) : Prop := x.isFinite = true ∧ x ≠ zero true

theorem eq_of_units_eq {x y : Binary64} (hx : x.IsCanonical) (hy : y.IsCanonical)
    (h : x.units = y.units) : x = y := by
  obtain ⟨hx, hx0⟩ := hx
  obtain ⟨hy, hy0⟩ := hy
  cases x with
  | finite s u hu =>
    cases y with
    | finite t v hv =>
      obtain ⟨rfl, rfl | rfl⟩ := signedUnits_inj h
      · rfl
      · rw [finite_zero_eq] at hx0 hy0
        rw [finite_zero_eq, finite_zero_eq]
        cases s <;> cases t
        · rfl
        · exact absurd rfl hy0
        · exact absurd rfl hx0
        · rfl
    | infinite t => cases hy
    | nan => cases hy
  | infinite s => cases hx
  | nan => cases hx

theorem isCanonical_zero : (zero false).IsCanonical :=
  ⟨rfl, fun h => Bool.false_ne_true (finite.inj h).1⟩

theorem le_roundQuotient (num den : Nat) : num / den ≤ roundQuotient num den := by
  simp only [roundQuotient]
  split
  · exact Nat.le_refl _
  · split <;> omega

theorem gridStep_le {u : Nat} (h : 0 < u) : gridStep u ≤ u := by
  rw [gridStep, Nat.pow_eq]
  exact Nat.le_trans (Nat.pow_le_pow_right (by decide) (Nat.sub_le _ _))
    (Nat.log2_self_le (Nat.ne_of_gt h))

/-- A rounded quotient keeps its sign, and lies on the grid unless it is out of range. -/
theorem nearest_cases (negative : Bool) (num den : Nat) :
    (∃ h, nearest negative num den = .finite negative
      (roundQuotient num (den * gridStep (num / den)) * gridStep (num / den)) h) ∨
    nearest negative num den = .infinite negative := by
  unfold nearest
  dsimp only
  split
  · rename_i h
    exact .inl ⟨⟨⟨_, _, roundQuotient_gridStep_le num den, rfl⟩, h⟩, rfl⟩
  · exact .inr rfl

/-- What is at least one unit is not rounded to zero. -/
theorem nearest_ne_zero {num den : Nat} (hden : 0 < den) (h : den ≤ num) (negative sign : Bool) :
    nearest negative num den ≠ zero sign := by
  have hq : 0 < num / den := Nat.div_pos h hden
  have hstep := gridStep_pos (num / den)
  have hm : 0 < roundQuotient num (den * gridStep (num / den)) := by
    refine Nat.lt_of_lt_of_le ?_ (le_roundQuotient _ _)
    rw [← Nat.div_div_eq_div_mul]
    exact Nat.div_pos (gridStep_le hq) hstep
  intro heq
  rcases nearest_cases negative num den with ⟨_, hfinite⟩ | hinfinite
  · exact absurd (finite_eq_zero (hfinite.symm.trans heq)).2
      (Nat.ne_of_gt (Nat.mul_pos hm hstep))
  · rw [hinfinite] at heq
    cases heq

theorem nearest_ne_zero_true (num den : Nat) : nearest false num den ≠ zero true := by
  intro heq
  rcases nearest_cases false num den with ⟨_, hfinite⟩ | hinfinite
  · cases (finite_eq_zero (hfinite.symm.trans heq)).1
  · rw [hinfinite] at heq
    cases heq

theorem ofRatio_hundred_ne_zero_true (n : Int) : ofRatio n 100 ≠ zero true := by
  rw [ofRatio]
  by_cases h : n < 0
  · refine nearest_ne_zero (by decide) ?_ _ _
    have hn : 1 ≤ n.natAbs := by omega
    have hunits : 100 ≤ unitsPerOne := by decide +kernel
    calc 100 ≤ 1 * unitsPerOne := by rw [Nat.one_mul]; exact hunits
      _ ≤ n.natAbs * unitsPerOne := Nat.mul_le_mul_right _ hn
  · rw [decide_eq_false h]
    exact nearest_ne_zero_true _ _

theorem hundredths?_zero_true : hundredths? (zero true) = some 0 := by decide +kernel

theorem toHundredths_ne_zero_true (x : Binary64) : x.toHundredths ≠ zero true := by
  unfold toHundredths
  cases h : hundredths? x with
  | some n => exact ofRatio_hundred_ne_zero_true n
  | none =>
    rintro rfl
    rw [hundredths?_zero_true] at h
    cases h

end RunCharts.Binary64
