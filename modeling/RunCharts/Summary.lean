import RunCharts.Status
import RunCharts.Timestamp

/-!
# Summaries

The overall status of a run, with the times of its start and its end. The end is the latest time at
which a measurement finished.
-/

namespace RunCharts

structure Summary where
  phase : String
  title : String
  flag : Option Flag
  message : Option String
  /-- Milliseconds from the start of 1970. -/
  startTime : Option Int
  /-- Milliseconds from the start of 1970. -/
  endTime : Option Int
deriving DecidableEq

namespace Summary

def endTimeOf (results : List MetricResult) : Except Fault (Option Int) :=
  ((results.flatMap fun r => r.measurements).mapM fun m => Timestamp.millis? m.finishedAt).map
    Timestamp.latest

/-- The text of the start: when the run was made, or else when it started. -/
def startText (createdAt startedAt : Option String) : Option String :=
  if createdAt = none ∨ createdAt = some "" then startedAt else createdAt

def ofRun (run : Run) : Except Fault Summary :=
  match run.snapshot.status with
  | none => do
    let phase := Phase.unknown.text
    return ⟨phase, Status.label phase .none, none, none, ← Timestamp.millis? run.createdAt, none⟩
  | some status => do
    let issues := status.summary.issues
    return {
      phase := status.phase
      title := Status.label status.phase issues
      flag := Status.flag status.phase issues
      message := status.message
      startTime := ← Timestamp.millis? (startText run.createdAt status.startedAt)
      endTime := ← endTimeOf status.results }

end Summary

end RunCharts
