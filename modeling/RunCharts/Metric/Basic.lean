import RunCharts.Axis
import RunCharts.Condition
import RunCharts.Measurement.Series
import RunCharts.Provider.Queries
import RunCharts.Settings.Basic
import RunCharts.Status

/-!
# Metrics

A metric joins the spec of a run with the result of that name: its queries and conditions filled in,
its measurements read, and the bounds of its chart.
-/

namespace RunCharts

structure Guideline where
  label : Option String
  /-- The thresholds rounded to hundredths, unless there are none. -/
  thresholds : Option (List Binary64)
deriving DecidableEq

def Guideline.ofCondition (c : Condition) : Guideline :=
  ⟨c.label,
    if c.thresholds.isEmpty then none else some (c.thresholds.map Binary64.toHundredths)⟩

structure Metric where
  name : String
  spec : MetricSpec
  queries : Option (List String)
  failure : Guideline
  success : Guideline
  /-- The keys of the conditions, each once. -/
  keys : List String
  result : MetricResult
  series : Series
  upper : Option Binary64

namespace Metric

/-- The keys of two conditions, each once, in the order of their first occurrence. -/
def keysOf (failure success : Condition) : List String := (failure.keys ++ success.keys).eraseDups

def ofResult (settings : Settings) (args : List Argument) (spec : MetricSpec) (name : String)
    (result : MetricResult) : Except Fault Metric := do
  let failure := Condition.read args spec.provider spec.failureCondition
  let success := Condition.read args spec.provider spec.successCondition
  let keys := keysOf failure success
  let series ← Series.ofMeasurements settings.strictValues keys result.measurements
  let queries ← Provider.queries args spec.provider
  let fail := Guideline.ofCondition failure
  let pass := Guideline.ofCondition success
  return {
    name := name
    spec := spec
    queries := queries
    failure := fail
    success := pass
    keys := keys
    result := result
    series := series
    upper := Axis.upper settings.headroom series.greatest (fail.thresholds.getD [])
      (pass.thresholds.getD []) }

/-- Whether there is a chart: every row can be shown and the axis has an end. -/
def canChart (m : Metric) : Bool := m.series.chartable && m.upper.isSome

def statusLabel (m : Metric) : String := Status.label m.result.phase m.result.issues

def flag (m : Metric) : Option Flag := Status.flag m.result.phase m.result.issues

end Metric

end RunCharts
