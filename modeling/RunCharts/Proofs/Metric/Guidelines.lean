import RunCharts.Proofs.Measurement.Displays
import RunCharts.Proofs.Metric.Cover

/-!
# Guidelines and the end of the axis

A key comes from a condition together with a threshold, and thresholds are finite. So where values
are read by keys there is a guideline, and the axis has an end.
-/

namespace RunCharts

namespace Axis

variable {fail success : List Binary64} {value : Option Binary64}

theorem top_eq_none_iff (hfinite : ∀ x ∈ contributors value fail success, x.isFinite = true) :
    top value fail success = none ↔ value = none ∧ fail = [] ∧ success = [] := by
  have hempty : contributors value fail success = [] ↔ value = none ∧ fail = [] ∧ success = [] := by
    rw [contributors, List.append_eq_nil_iff, List.append_eq_nil_iff, Option.toList_eq_nil_iff,
      and_assoc]
  rw [← hempty]
  rcases isTopOf_top hfinite with ⟨htop, hnil⟩ | ⟨g, htop, hmem, -⟩
  · exact iff_of_true htop hnil
  · rw [htop]
    exact iff_of_false nofun (List.ne_nil_of_mem hmem)

end Axis

namespace Guideline

variable {c : Condition} {xs : List Binary64}

theorem thresholds_eq_none_iff : (ofCondition c).thresholds = none ↔ c.thresholds = [] := by
  unfold ofCondition
  rw [← List.isEmpty_iff]
  split <;> simp_all

theorem ne_nil_of_thresholds (h : (ofCondition c).thresholds = some xs) : xs ≠ [] := by
  unfold ofCondition at h
  dsimp only at h
  split at h
  · cases h
  · rename_i hthresholds
    cases h
    rwa [ne_eq, List.map_eq_nil_iff, ← List.isEmpty_iff]

theorem getD_thresholds_eq_nil_iff :
    (ofCondition c).thresholds.getD [] = [] ↔ (ofCondition c).thresholds = none := by
  cases h : (ofCondition c).thresholds with
  | none => exact iff_of_true rfl rfl
  | some xs => exact iff_of_false (ne_nil_of_thresholds h) nofun

theorem isFinite_of_thresholds {args : List Argument} {provider : Option Provider}
    {text : Option String}
    (h : (ofCondition (Condition.read args provider text)).thresholds = some xs) :
    xs ≠ [] ∧ ∀ x ∈ xs, x.isFinite = true := by
  refine ⟨ne_nil_of_thresholds h, ?_⟩
  intro x hx
  have hmem : x ∈ (ofCondition (Condition.read args provider text)).thresholds.getD [] := by
    rwa [h, Option.getD_some]
  exact (isRounded_of_mem_thresholds hmem).isFinite

end Guideline

namespace Metric

variable {settings : Settings} {args : List Argument} {spec : MetricSpec} {name : String}
  {result : MetricResult} {m : Metric}

theorem failThresholds_eq_nil_iff (h : ofResult settings args spec name result = .ok m) :
    m.failThresholds = [] ↔ m.failure.thresholds = none := by
  obtain ⟨series, queries, -, -, rfl⟩ := ofResult_eq_ok_iff.mp h
  exact Guideline.getD_thresholds_eq_nil_iff

theorem successThresholds_eq_nil_iff (h : ofResult settings args spec name result = .ok m) :
    m.successThresholds = [] ↔ m.success.thresholds = none := by
  obtain ⟨series, queries, -, -, rfl⟩ := ofResult_eq_ok_iff.mp h
  exact Guideline.getD_thresholds_eq_nil_iff

theorem isFinite_of_thresholds (h : ofResult settings args spec name result = .ok m)
    {xs : List Binary64} (hxs : m.failure.thresholds = some xs ∨ m.success.thresholds = some xs) :
    xs ≠ [] ∧ ∀ x ∈ xs, x.isFinite = true := by
  obtain ⟨series, queries, -, -, rfl⟩ := ofResult_eq_ok_iff.mp h
  rcases hxs with hxs | hxs
  · exact Guideline.isFinite_of_thresholds hxs
  · exact Guideline.isFinite_of_thresholds hxs

theorem upper_eq_none_iff (h : ofResult settings args spec name result = .ok m) :
    m.upper = none ↔ m.failure.thresholds = none ∧ m.success.thresholds = none ∧
      m.series.numbers = [] := by
  rw [upper_eq h, Option.map_eq_none_iff, top,
    Axis.top_eq_none_iff (isFinite_of_mem_contributors h), Series.greatest_eq_none_iff,
    failThresholds_eq_nil_iff h, successThresholds_eq_nil_iff h, and_comm, and_assoc]

/-- Where values are read by keys, one of the conditions gave a threshold. -/
theorem exists_thresholds_of_keys (h : ofResult settings args spec name result = .ok m)
    (hkeys : m.keys ≠ []) : m.failure.thresholds ≠ none ∨ m.success.thresholds ≠ none := by
  obtain ⟨series, queries, -, -, rfl⟩ := ofResult_eq_ok_iff.mp h
  obtain ⟨key, hkey⟩ := List.exists_mem_of_ne_nil _ hkeys
  have hmem : key ∈ (Condition.read args spec.provider spec.failureCondition).keys ++
      (Condition.read args spec.provider spec.successCondition).keys := List.mem_eraseDups.mp hkey
  rcases List.mem_append.mp hmem with hmem | hmem
  · exact .inl (mt Guideline.thresholds_eq_none_iff.mp
      (Condition.thresholds_ne_nil (List.ne_nil_of_mem hmem)))
  · exact .inr (mt Guideline.thresholds_eq_none_iff.mp
      (Condition.thresholds_ne_nil (List.ne_nil_of_mem hmem)))

end Metric

namespace Metrics

/-- The guidelines of a metric and the end of its axis. The axis has no end exactly where there is
no guideline and no number alone in the chart; so it has one wherever values are read by keys. -/
theorem axis_of_keys (settings : Settings) (s : Snapshot) (ms : Metrics)
    (h : ofSnapshot settings s = .ok ms) (m : Metric) (hm : m ∈ ms.entries.map Prod.snd) :
    (m.upper = none ↔ m.failure.thresholds = none ∧ m.success.thresholds = none ∧
      ∀ row ∈ m.series.rows, ∀ x, row.reading.chart ≠ .single (.number x)) ∧
    (∀ xs, m.failure.thresholds = some xs ∨ m.success.thresholds = some xs →
      xs ≠ [] ∧ ∀ x ∈ xs, x.isFinite = true) ∧
    (∀ row ∈ m.series.rows, ∀ entries, row.reading.chart = .keyed entries → m.keys ≠ []) ∧
    (m.keys ≠ [] → (m.failure.thresholds ≠ none ∨ m.success.thresholds ≠ none) ∧
      m.upper ≠ none ∧ m.canChart = m.series.chartable) := by
  obtain ⟨args, spec, name, result, hof⟩ := exists_ofResult h hm
  have hseries := Metric.series_of_ofResult hof
  have hupper := Metric.upper_eq_none_iff hof
  refine ⟨?_, ?_, ?_, ?_⟩
  · rw [hupper, Series.numbers_eq_nil_iff hseries]
  · intro xs hxs
    exact Metric.isFinite_of_thresholds hof hxs
  · intro row hrow entries hchart
    exact Series.keys_ne_nil_of_keyed hseries hrow hchart
  · intro hkeys
    have hthresholds := Metric.exists_thresholds_of_keys hof hkeys
    have hend : m.upper ≠ none := by
      rw [ne_eq, hupper]
      rintro ⟨hfail, hsuccess, -⟩
      exact hthresholds.elim (absurd hfail) (absurd hsuccess)
    refine ⟨hthresholds, hend, ?_⟩
    rw [Metric.canChart, Option.isSome_iff_ne_none.mpr hend, Bool.and_true]

/-- A metric whose first items are charted under a key, one of them being missing. -/
theorem axis_of_firstItems : ∃ ms m,
    ofSnapshot .default (oneMetric (some "result[0] < 5") ["[3]", "[null]"]) = .ok ms ∧
    m ∈ ms.entries.map Prod.snd ∧ m.keys ≠ [] ∧ m.series.numbers = [] ∧
    m.series.chartable = true ∧ m.upper ≠ none ∧ m.canChart = true := by
  have htest : (ofSnapshot .default
      (oneMetric (some "result[0] < 5") ["[3]", "[null]"])).toOption.any
      (fun ms => (ms.entries.map Prod.snd).any fun m =>
        decide (m.keys ≠ [] ∧ m.series.numbers = [] ∧ m.series.chartable = true)) = true := by
    decide +kernel
  obtain ⟨ms, m, hms, hm, htest⟩ := exists_of_test htest
  obtain ⟨hkeys, hnumbers, hchartable⟩ := of_decide_eq_true htest
  obtain ⟨-, -, -, haxis⟩ := axis_of_keys .default _ ms hms m hm
  obtain ⟨-, hupper, hcan⟩ := haxis hkeys
  exact ⟨ms, m, hms, hm, hkeys, hnumbers, hchartable, hupper, hcan.trans hchartable⟩

end Metrics

end RunCharts
