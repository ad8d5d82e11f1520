import RunCharts.Provider.Basic
import RunCharts.Template

/-!
# Runs

An analysis run as it was recorded: what was to be measured, and what came of it. The spec lists
metrics with their conditions; the status lists results with their measurements. Either part may be
missing.
-/

namespace RunCharts

structure Measurement where
  phase : String
  value : Option String
  startedAt : Option String
  finishedAt : Option String
  message : Option String
deriving DecidableEq

structure MetricSpec where
  name : String
  provider : Option Provider
  successCondition : Option String
  failureCondition : Option String
  consecutiveErrorLimit : Option Int
  failureLimit : Option Int
  inconclusiveLimit : Option Int

structure MetricResult where
  name : Option String
  phase : String
  failed : Int
  error : Int
  inconclusive : Int
  successful : Int
  consecutiveError : Int
  count : Int
  message : Option String
  measurements : List Measurement
deriving DecidableEq

structure RunSummary where
  count : Int
  successful : Int
  failed : Int
  inconclusive : Int
  error : Int
deriving DecidableEq, Repr

structure RunSpec where
  metrics : List MetricSpec
  args : List Argument

def RunSpec.metric? (spec : RunSpec) (name : String) : Option MetricSpec :=
  spec.metrics.find? fun m => m.name = name

structure RunStatus where
  phase : String
  message : Option String
  results : List MetricResult
  summary : RunSummary
  startedAt : Option String
deriving DecidableEq

structure Snapshot where
  spec : Option RunSpec
  status : Option RunStatus

structure Run where
  name : Option String
  createdAt : Option String
  snapshot : Snapshot

end RunCharts
