import RunCharts.Proofs.Metric.Axis
import RunCharts.Proofs.Metric.Collection

/-!
# What the axis covers

The headroom is at least one, so from zero on the axis ends at its top or above, however the product
is rounded to hundredths. What stands alone in the chart is not above the top; what stands under a
key does not move the top, and is covered as far as it is below it.
-/

namespace RunCharts

open Binary64 Series

namespace Binary64

variable {x y z : Binary64}

theorem leastHeadroom_eq : ∃ h, Settings.leastHeadroom = finite false unitsPerOne h := by
  have hrange : unitsPerOne < overflowUnits := by decide +kernel
  have hshort := isShort_mul_unitsPerOne (n := 1) (by decide)
  rw [Nat.one_mul] at hshort
  have hnearest := nearest_of_representable ⟨hshort, hrange⟩ false
  have hone := ofInt_natCast 1
  rw [Nat.one_mul, hnearest] at hone
  exact ⟨_, hone⟩

/-- A headroom is a number from one on, or infinite. -/
theorem headroom_cases (settings : Settings) :
    (∃ v hv, settings.headroom = finite false v hv ∧ unitsPerOne ≤ v) ∨
      settings.headroom = infinite false := by
  have hleast := settings.isAtLeast_headroom
  obtain ⟨hone, heq⟩ := leastHeadroom_eq
  have hpos := unitsPerOne_pos
  cases h : settings.headroom with
  | finite s v hv =>
    rw [h, heq, isAtLeast_iff_units rfl rfl] at hleast
    cases s with
    | false => exact .inl ⟨v, hv, rfl, Int.ofNat_le.mp hleast⟩
    | true =>
      simp only [units, signedUnits, if_true, Bool.false_eq_true, if_false] at hleast
      omega
  | infinite s =>
    rw [h, heq] at hleast
    cases s with
    | false => exact .inr rfl
    | true => simp [isAtLeast, lt] at hleast
  | nan =>
    rw [h] at hleast
    simp [isAtLeast] at hleast

theorem isAtLeast_infinite (hx : x.isFinite = true) : (infinite false).isAtLeast x = true := by
  cases x with
  | finite s u hu => simp [isAtLeast, lt]
  | infinite s => cases hx
  | nan => cases hx

theorem isAtLeast_trans (hy : y.isFinite = true) (hz : z.isFinite = true)
    (hxy : x.isAtLeast y = true) (hyz : y.isAtLeast z = true) : x.isAtLeast z = true := by
  cases x with
  | finite s u hu =>
    rw [isAtLeast_iff_units rfl hy] at hxy
    rw [isAtLeast_iff_units hy hz] at hyz
    rw [isAtLeast_iff_units rfl hz]
    exact Int.le_trans hyz hxy
  | infinite s =>
    cases s with
    | false => exact isAtLeast_infinite hz
    | true =>
      cases y with
      | finite t v hv => simp [isAtLeast, lt] at hxy
      | infinite t => cases hy
      | nan => cases hy
  | nan => simp [isAtLeast] at hxy

/-- A rounded number from zero on, times a headroom and rounded again, covers itself. -/
theorem isAtLeast_toHundredths_mul (settings : Settings) (hx : x.IsRounded) (h : 0 ≤ x.units)
    (hheadroom : settings.headroom.isFinite = true ∨ 0 < x.units) :
    (x.mul settings.headroom).toHundredths.isAtLeast x = true := by
  obtain ⟨u, hu, rfl⟩ := exists_finite_of_nonneg hx.isCanonical h
  rcases headroom_cases settings with ⟨v, hv, heq, hle⟩ | heq
  · rw [heq, mul]
    have hge : u ≤ rounded (u * v) unitsPerOne :=
      le_rounded_of_isShort hu.1 unitsPerOne_pos (Nat.mul_le_mul_left u hle)
    rcases Nat.lt_or_ge (rounded (u * v) unitsPerOne) overflowUnits with hlt | hover
    · rw [nearest_of_rounded_lt hlt, isAtLeast_iff_units _ rfl]
      · exact units_le_toHundredths hx h _ (Int.ofNat_le.mpr hge)
      · rw [isFinite_toHundredths]
        rfl
    · rw [nearest_of_le_rounded hover, toHundredths_of_not_finite rfl]
      exact isAtLeast_infinite rfl
  · have hpos : 0 < units (finite false u hu) := by
      rcases hheadroom with hfinite | hpos
      · rw [heq] at hfinite
        cases hfinite
      · exact hpos
    have hne : u ≠ 0 := Int.ofNat_ne_zero.mp (Int.ne_of_gt hpos)
    rw [heq, mul, if_neg hne, toHundredths_of_not_finite rfl]
    exact isAtLeast_infinite rfl

end Binary64

namespace Metric

variable {settings : Settings} {args : List Argument} {spec : MetricSpec} {name : String}
  {result : MetricResult} {m : Metric} {x t : Binary64}

theorem isAtLeast_least (h : ofResult settings args spec name result = .ok m)
    (hx : x ∈ zero false :: m.series.numbers) : x.isAtLeast m.series.least = true :=
  (isLeastOf_least (isCanonical_of_mem_numbers (series_of_ofResult h))).isAtLeast
    (isCanonical_of_mem_zero_cons (isCanonical_of_mem_numbers (series_of_ofResult h))) hx

theorem isAtLeast_least_of_nonneg (h : ofResult settings args spec name result = .ok m)
    (hx : x.isFinite = true) (hnonneg : x.isAtLeast (zero false) = true) :
    x.isAtLeast m.series.least = true := by
  have hleast := (isCanonical_least (isCanonical_of_mem_numbers (series_of_ofResult h))).1
  have hzero := isAtLeast_least h List.mem_cons_self
  rw [isAtLeast_iff_units hx rfl] at hnonneg
  rw [isAtLeast_iff_units rfl hleast] at hzero
  rw [isAtLeast_iff_units hx hleast]
  exact Int.le_trans hzero hnonneg

/-- The top is at least every number of the series and every threshold. -/
theorem top_isAtLeast (h : ofResult settings args spec name result = .ok m) (ht : m.top = some t)
    (hx : x ∈ m.series.numbers ∨ x ∈ m.failThresholds ∨ x ∈ m.successThresholds) :
    t.isAtLeast x = true := by
  have hgreatest := isGreatestOf_top h ht
  have htfinite := (isRounded_top h ht).isFinite
  have hseries := series_of_ofResult h
  rcases hx with hx | hx
  · cases hg : m.series.greatest with
    | none =>
      rw [greatest_eq_none_iff.mp hg] at hx
      cases hx
    | some g =>
      have hcanonical := isCanonical_of_mem_numbers hseries
      have hgs := isGreatestOf_of_greatest hcanonical hg
      have hgt : g.units ≤ t.units := by
        apply hgreatest.2
        rw [hg]
        exact List.mem_append_left _ (List.mem_append_left _ (Option.mem_toList.mpr rfl))
      rw [isAtLeast_iff_units htfinite (hcanonical x hx).1]
      exact Int.le_trans (hgs.2 x hx) hgt
  · have hxfinite := (isRounded_of_mem_thresholds h hx).isFinite
    rw [isAtLeast_iff_units htfinite hxfinite]
    apply hgreatest.2
    rcases hx with hx | hx
    · exact List.mem_append_left _ (List.mem_append_right _ hx)
    · exact List.mem_append_right _ hx

/-- What is not above the top is not above the end of the axis, from a top of zero on. -/
theorem upper_isAtLeast (h : ofResult settings args spec name result = .ok m) (ht : m.top = some t)
    (hnonneg : t.isAtLeast (zero false) = true)
    (hheadroom : settings.headroom.isFinite = true ∨ (zero false).lt t = true)
    (hx : x.isFinite = true) (hle : t.isAtLeast x = true) :
    ∃ u, m.upper = some u ∧ u.isAtLeast x = true := by
  have hrounded := isRounded_top h ht
  have htfinite := hrounded.isFinite
  rw [isAtLeast_iff_units htfinite rfl] at hnonneg
  rw [lt_iff_units rfl htfinite] at hheadroom
  have hcover := isAtLeast_toHundredths_mul settings hrounded hnonneg hheadroom
  refine ⟨(t.mul settings.headroom).toHundredths, ?_, isAtLeast_trans htfinite hx hcover hle⟩
  rw [upper_eq h, ht]
  rfl

theorem exists_top (h : ofResult settings args spec name result = .ok m)
    (hcan : m.canChart = true) : ∃ t, m.top = some t := by
  rw [canChart, Bool.and_eq_true, upper_eq h, Option.isSome_map] at hcan
  exact Option.isSome_iff_exists.mp hcan.2

/-- Whether a number lies off the axis of a metric: below its start, or above its end. -/
def isOffAxis (m : Metric) (x : Binary64) : Bool :=
  !(x.isAtLeast m.series.least && m.upper.any fun u => u.isAtLeast x)

end Metric

namespace Metrics

/-- Where the numbers of a chart lie. A number that stands alone is at or above the lower end of the
axis, and at or below the top, which is the greatest of such numbers and of the thresholds. A number
under a key moves neither, and is at or above the lower end where it is not negative. The upper end
is the top times the headroom, rounded to hundredths; it is not below the top, as long as the top is
not negative and the product is no number without a value. -/
theorem chart_bounds (settings : Settings) (s : Snapshot) (ms : Metrics)
    (h : ofSnapshot settings s = .ok ms) (m : Metric) (hm : m ∈ ms.entries.map Prod.snd)
    (hcan : m.canChart = true) : ∃ t, m.top = some t ∧
      m.upper = some (t.mul settings.headroom).toHundredths ∧
      (t ∈ m.series.numbers ∨ t ∈ m.failThresholds ∨ t ∈ m.successThresholds) ∧
      (∀ y, y ∈ m.series.numbers ∨ y ∈ m.failThresholds ∨ y ∈ m.successThresholds →
        t.isAtLeast y = true) ∧
      ∀ row ∈ m.series.rows, ∀ x ∈ row.reading.chart.numbers,
        (row.reading.chart = .single (.number x) →
          x.isAtLeast m.series.least = true ∧ t.isAtLeast x = true) ∧
        (x.isAtLeast (.zero false) = true → x.isAtLeast m.series.least = true) ∧
        (t.isAtLeast (.zero false) = true →
          settings.headroom.isFinite = true ∨ (Binary64.zero false).lt t = true →
          t.isAtLeast x = true → ∃ u, m.upper = some u ∧ u.isAtLeast x = true) := by
  obtain ⟨args, spec, name, result, hof⟩ := exists_ofResult h hm
  have hseries := Metric.series_of_ofResult hof
  obtain ⟨t, ht⟩ := Metric.exists_top hof hcan
  refine ⟨t, ht, ?_, ?_, ?_, ?_⟩
  · rw [Metric.upper_eq hof, ht, Option.map_some]
  · exact Metric.mem_of_mem_contributors hof (Metric.isGreatestOf_top hof ht).1
  · intro y hy
    exact Metric.top_isAtLeast hof ht hy
  · intro row hrow x hx
    have hfinite := (isRounded_of_mem_rows hseries hrow (.inl hx)).isFinite
    refine ⟨?_, Metric.isAtLeast_least_of_nonneg hof hfinite, ?_⟩
    · intro hsingle
      have hmem : x ∈ m.series.numbers := by
        rw [mem_numbers_iff hseries]
        rw [Metric.canChart, Bool.and_eq_true] at hcan
        rw [chartable, Bool.and_eq_true, List.all_eq_true] at hcan
        exact ⟨row, hrow, hcan.1.2 row hrow, hsingle⟩
      exact ⟨Metric.isAtLeast_least hof (List.mem_cons_of_mem _ hmem),
        Metric.top_isAtLeast hof ht (.inl hmem)⟩
    · intro hnonneg hheadroom hle
      exact Metric.upper_isAtLeast hof ht hnonneg hheadroom hfinite hle

def oneMetric (condition : Option String) (values : List String) : Snapshot :=
  ⟨some ⟨[⟨"latency", some (.prometheus none), condition, none, none, none, none⟩], []⟩,
    some ⟨"Successful", none,
      [⟨some "latency", "Successful", 0, 0, 0, values.length, 0, values.length, none,
        values.map fun value => ⟨"Successful", some value, none, none, none⟩⟩],
      ⟨values.length, values.length, 0, 0, 0⟩, none⟩⟩

/-- What a test finds in the metrics of a snapshot, evaluated, is there. -/
theorem exists_of_test {settings : Settings} {s : Snapshot} {p : Metric → Bool}
    (h : (ofSnapshot settings s).toOption.any (fun ms => (ms.entries.map Prod.snd).any p) = true) :
    ∃ ms m, ofSnapshot settings s = .ok ms ∧ m ∈ ms.entries.map Prod.snd ∧ p m = true := by
  cases hms : ofSnapshot settings s with
  | error fault =>
    rw [hms] at h
    cases h
  | ok ms =>
    rw [hms] at h
    obtain ⟨m, hm, hp⟩ := List.any_eq_true.mp h
    exact ⟨ms, m, rfl, hm, hp⟩

theorem oneMetric_bounds : ∃ ms m t,
    ofSnapshot .default (oneMetric (some "result < 5") ["3", "-1"]) = .ok ms ∧
    m ∈ ms.entries.map Prod.snd ∧ m.canChart = true ∧ m.series.numbers.length = 2 ∧
    m.top = some t ∧ ∀ row ∈ m.series.rows, ∀ x ∈ row.reading.chart.numbers,
      row.reading.chart = .single (.number x) →
        x.isAtLeast m.series.least = true ∧ ∃ u, m.upper = some u ∧ u.isAtLeast x = true := by
  have htest : (ofSnapshot .default (oneMetric (some "result < 5") ["3", "-1"])).toOption.any
      (fun ms => (ms.entries.map Prod.snd).any fun m => m.canChart &&
        (m.series.numbers.length == 2 && m.top.all fun t => t.isAtLeast (.zero false))) = true := by
    decide +kernel
  obtain ⟨ms, m, hms, hm, htest⟩ := exists_of_test htest
  rw [Bool.and_eq_true, Bool.and_eq_true] at htest
  obtain ⟨hcan, hlength, hnonneg⟩ := htest
  obtain ⟨t, ht, -, -, -, hrows⟩ := chart_bounds .default _ ms hms m hm hcan
  rw [ht, Option.all_some] at hnonneg
  have hheadroom : Settings.default.headroom.isFinite = true := by decide +kernel
  refine ⟨ms, m, t, hms, hm, hcan, eq_of_beq hlength, ht, ?_⟩
  intro row hrow x hx hsingle
  obtain ⟨hscalar, -, hupper⟩ := hrows row hrow x hx
  obtain ⟨hleast, htop⟩ := hscalar hsingle
  exact ⟨hleast, hupper hnonneg (.inl hheadroom) htop⟩

def HasPointOffAxis (s : Snapshot) : Prop :=
  ∃ ms m, ofSnapshot .default s = .ok ms ∧ m ∈ ms.entries.map Prod.snd ∧ m.canChart = true ∧
    ∃ row ∈ m.series.rows, ∃ x ∈ row.reading.chart.numbers, m.isOffAxis x = true

theorem hasPointOffAxis_of_test {s : Snapshot} (h : (ofSnapshot .default s).toOption.any
    (fun ms => (ms.entries.map Prod.snd).any fun m => m.canChart &&
      m.series.rows.any fun row => row.reading.chart.numbers.any m.isOffAxis) = true) :
    HasPointOffAxis s := by
  obtain ⟨ms, m, hms, hm, htest⟩ := exists_of_test h
  rw [Bool.and_eq_true, List.any_eq_true] at htest
  obtain ⟨hcan, row, hrow, hany⟩ := htest
  exact ⟨ms, m, hms, hm, hcan, row, hrow, List.any_eq_true.mp hany⟩

/-- Not every chart is covered: a number under a key can stand above the end of the axis or below
its start, and an axis of negative numbers ends below them. -/
theorem not_covered :
    HasPointOffAxis (oneMetric (some "result[0] < 5") ["[100]"]) ∧
    HasPointOffAxis (oneMetric (some "result[0] < 5") ["[-3]"]) ∧
    HasPointOffAxis (oneMetric none ["-5"]) := by
  refine ⟨?_, ?_, ?_⟩
  all_goals
    apply hasPointOffAxis_of_test
    decide +kernel

end Metrics

end RunCharts
