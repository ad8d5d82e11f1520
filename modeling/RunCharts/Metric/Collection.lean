import RunCharts.Entries
import RunCharts.Metric.Basic
import RunCharts.Text.Surrogate

/-!
# The metrics of a run

Every result of a run is joined with the first spec of its name. Of several results of one name the
last one counts, at the place of the first; a result without a spec is passed over and reported.
-/

namespace RunCharts

/-- The name under which a result is shown. A result without a name is known by its place. -/
def MetricResult.displayName (index : Nat) (r : MetricResult) : String :=
  r.name.getD ("Unknown metric " ++ toString index)

structure Metrics where
  entries : List (String × Metric)
  log : List LogEntry

namespace Metrics

inductive Outcome where
  | skipped (name : String)
  | kept (metric : Metric)

namespace Outcome

def entry? : Outcome → Option (String × Metric)
  | skipped _ => none
  | kept m => some (m.name, m)

def log : Outcome → List LogEntry
  | skipped name => [.withoutSpec name]
  | kept m => m.series.log

end Outcome

def outcome (settings : Settings) (spec : RunSpec) (result : MetricResult) (index : Nat) :
    Except Fault Outcome :=
  let name := MetricResult.displayName index result
  match spec.metric? name with
  | none => .ok (.skipped name)
  | some m => (Metric.ofResult settings spec.args m name result).map .kept

def ofOutcomes (outcomes : List Outcome) : Metrics :=
  ⟨upsertAll (outcomes.filterMap Outcome.entry?), outcomes.flatMap Outcome.log⟩

/-- The metrics of a snapshot. Without a spec or a status there are none. -/
def ofSnapshot (settings : Settings) (s : Snapshot) : Except Fault Metrics :=
  match s.spec, s.status with
  | some spec, some status =>
    (status.results.zipIdx.mapM fun r => outcome settings spec r.1 r.2).map ofOutcomes
  | _, _ => .ok ⟨[], []⟩

/-- The metrics in the order of their names, by code points. -/
def sorted (ms : Metrics) : List Metric :=
  (ms.entries.map Prod.snd).mergeSort fun a b => !Text.precedes b.name a.name

end Metrics

end RunCharts
