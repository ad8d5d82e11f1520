import RunCharts.Metric.Basic

/-!
# The parts of a metric

A metric is there when its series and its queries are, and all else in it comes from the spec.
-/

namespace RunCharts.Metric

def keysOfSpec (args : List Argument) (spec : MetricSpec) : List String :=
  keysOf (Condition.read args spec.provider spec.failureCondition)
    (Condition.read args spec.provider spec.successCondition)

def ofParts (settings : Settings) (args : List Argument) (spec : MetricSpec) (name : String)
    (result : MetricResult) (series : Series) (queries : Option (List String)) : Metric :=
  let failure := Condition.read args spec.provider spec.failureCondition
  let success := Condition.read args spec.provider spec.successCondition
  let fail := Guideline.ofCondition failure
  let pass := Guideline.ofCondition success
  { name := name
    spec := spec
    queries := queries
    failure := fail
    success := pass
    keys := keysOfSpec args spec
    result := result
    series := series
    upper := Axis.upper settings.headroom series.greatest (fail.thresholds.getD [])
      (pass.thresholds.getD []) }

variable {settings : Settings} {args : List Argument} {spec : MetricSpec} {name : String}
  {result : MetricResult} {m : Metric}

theorem ofResult_eq_ok_iff : ofResult settings args spec name result = .ok m ↔
    ∃ series queries,
      Series.ofMeasurements settings.strictValues (keysOfSpec args spec) result.measurements =
        .ok series ∧
      Provider.queries args spec.provider = .ok queries ∧
      m = ofParts settings args spec name result series queries := by
  unfold ofResult keysOfSpec
  simp only [bind, Except.bind, pure, Except.pure]
  cases Series.ofMeasurements settings.strictValues
      (keysOf (Condition.read args spec.provider spec.failureCondition)
        (Condition.read args spec.provider spec.successCondition)) result.measurements with
  | error e => simp
  | ok series =>
    cases Provider.queries args spec.provider with
    | error e => simp
    | ok queries => simp [ofParts, keysOfSpec, eq_comm]

theorem name_of_ofResult (h : ofResult settings args spec name result = .ok m) : m.name = name := by
  obtain ⟨series, queries, -, -, rfl⟩ := ofResult_eq_ok_iff.mp h
  rfl

theorem result_of_ofResult (h : ofResult settings args spec name result = .ok m) :
    m.result = result := by
  obtain ⟨series, queries, -, -, rfl⟩ := ofResult_eq_ok_iff.mp h
  rfl

theorem keys_of_ofResult (h : ofResult settings args spec name result = .ok m) :
    m.keys = keysOfSpec args m.spec := by
  obtain ⟨series, queries, -, -, rfl⟩ := ofResult_eq_ok_iff.mp h
  rfl

theorem series_of_ofResult (h : ofResult settings args spec name result = .ok m) :
    Series.ofMeasurements settings.strictValues m.keys m.result.measurements = .ok m.series := by
  obtain ⟨series, queries, hseries, -, rfl⟩ := ofResult_eq_ok_iff.mp h
  exact hseries

theorem ofResult_eq_error_iff {fault : Fault}
    (hqueries : ∃ queries, Provider.queries args spec.provider = .ok queries) :
    ofResult settings args spec name result = .error fault ↔
      Series.ofMeasurements settings.strictValues (keysOfSpec args spec) result.measurements =
        .error fault := by
  obtain ⟨queries, hqueries⟩ := hqueries
  unfold ofResult keysOfSpec
  simp only [bind, Except.bind, pure, Except.pure, hqueries]
  cases Series.ofMeasurements settings.strictValues
      (keysOf (Condition.read args spec.provider spec.failureCondition)
        (Condition.read args spec.provider spec.successCondition)) result.measurements <;> simp

end RunCharts.Metric
