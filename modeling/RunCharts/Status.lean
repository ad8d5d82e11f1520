import RunCharts.Run.Basic

/-!
# Status

How the phase of a run or a metric is worded, and the flag beside it. A phase is a text; seven of
them are known. Running and passed analyses are flagged where measurements went wrong.
-/

namespace RunCharts

inductive Phase where
  | unknown
  | pending
  | running
  | successful
  | failed
  | error
  | inconclusive
deriving DecidableEq, Repr

namespace Phase

def text : Phase → String
  | unknown => "Unknown"
  | pending => "Pending"
  | running => "Running"
  | successful => "Successful"
  | failed => "Failed"
  | error => "Error"
  | inconclusive => "Inconclusive"

def textOf (phase : Option String) : String :=
  match phase with
  | some s => if s = "" then unknown.text else s
  | none => unknown.text

def all : List Phase := [unknown, pending, running, successful, failed, error, inconclusive]

def ofText? (s : String) : Option Phase := all.find? fun p => p.text = s

theorem ofText?_text (p : Phase) : ofText? p.text = some p := by cases p <;> decide

end Phase

inductive Flag where
  | error
  | warning
deriving DecidableEq, Repr

def Flag.text : Flag → String
  | error => "error"
  | warning => "warning"

structure Issues where
  failures : Int
  errors : Int
  inconclusives : Int
deriving DecidableEq, Repr

namespace Issues

def none : Issues := ⟨0, 0, 0⟩

def remarks (i : Issues) : List String :=
  (if 0 < i.failures then ["with measurement failures"] else []) ++
  (if 0 < i.errors then ["with measurement errors"] else []) ++
  (if 0 < i.inconclusives then ["with inconclusive measurements"] else [])

def qualifier (i : Issues) : String :=
  match i.remarks with
  | [] => ""
  | [remark] => remark
  | _ => "with multiple issues"

end Issues

namespace Status

/-- The wording of a status. A phase that is not known has none. -/
def label (phase : String) (issues : Issues) : String :=
  match Phase.ofText? phase with
  | some .unknown => "Analysis status unknown"
  | some .pending => "Analysis pending"
  | some .running => "Analysis in progress"
  | some .successful =>
    if issues.qualifier = "" then "Analysis passed" else "Analysis passed " ++ issues.qualifier
  | some .failed => "Analysis failed"
  | some .inconclusive => "Analysis inconclusive"
  | some .error => "Analysis errored"
  | none => ""

/-- The flag beside a status: failures weigh more than errors and inconclusive results. -/
def flag (phase : String) (issues : Issues) : Option Flag :=
  if phase = Phase.running.text ∨ phase = Phase.successful.text then
    if 0 < issues.failures then some .error
    else if 0 < issues.errors ∨ 0 < issues.inconclusives then some .warning
    else none
  else none

end Status

def MetricResult.issues (r : MetricResult) : Issues := ⟨r.failed, r.error, r.inconclusive⟩

def RunSummary.issues (s : RunSummary) : Issues := ⟨s.failed, s.error, s.inconclusive⟩

end RunCharts
