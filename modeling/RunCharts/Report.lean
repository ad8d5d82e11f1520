import RunCharts.Metric.Collection
import RunCharts.Summary
import RunCharts.Table

/-!
# Reports

Summaries and metrics as JSON, and the files of a whole run: the summary, the metrics, and a table
for every metric.
-/

namespace RunCharts

def Json.ofInt? : Option Int → Json := Json.ofOption Json.int

namespace Measurement

def Cell.toJson : Cell → Json
  | none => .null
  | number x => .float x
  | text s => .str s

def Display.toJson : Display → Json
  | single c => c.toJson
  | keyed entries => .obj (entries.map fun e => (e.1, e.2.toJson))

def Row.toJson (r : Row) : Json :=
  .obj [("phase", .str r.measurement.phase),
    ("value", .ofText? r.measurement.value),
    ("started_at", .ofText? r.measurement.startedAt),
    ("finished_at", .ofText? r.measurement.finishedAt),
    ("message", .ofText? r.measurement.message),
    ("chart_value", r.reading.chart.toJson),
    ("table_value", r.reading.table.toJson)]

end Measurement

/-- The least number of a series as JSON: the integer zero unless a number is below. -/
def Series.leastJson (s : Series) : Json :=
  if s.least.lt (.zero false) then .float s.least else .int 0

namespace Metric

def specJson (m : Metric) : Json :=
  .obj [("name", .str m.spec.name),
    ("provider", .str (Provider.nameOf m.spec.provider)),
    ("success_condition", .ofText? m.spec.successCondition),
    ("failure_condition", .ofText? m.spec.failureCondition),
    ("consecutive_error_limit", .ofInt? m.spec.consecutiveErrorLimit),
    ("failure_limit", .ofInt? m.spec.failureLimit),
    ("inconclusive_limit", .ofInt? m.spec.inconclusiveLimit),
    ("queries", .ofOption .ofTexts m.queries),
    ("fail_condition_label", .ofText? m.failure.label),
    ("fail_thresholds", .ofOption .ofNumbers m.failure.thresholds),
    ("success_condition_label", .ofText? m.success.label),
    ("success_thresholds", .ofOption .ofNumbers m.success.thresholds),
    ("condition_keys", .ofTexts m.keys)]

def statusJson (m : Metric) : Json :=
  .obj [("name", .ofText? m.result.name),
    ("phase", .str m.result.phase),
    ("message", .ofText? m.result.message),
    ("count", .int m.result.count),
    ("successful", .int m.result.successful),
    ("failed", .int m.result.failed),
    ("error", .int m.result.error),
    ("inconclusive", .int m.result.inconclusive),
    ("consecutive_error", .int m.result.consecutiveError),
    ("status_label", .str m.statusLabel),
    ("substatus", .ofText? (m.flag.map Flag.text)),
    ("transformed_measurements", .arr (m.series.rows.map Measurement.Row.toJson)),
    ("chartable", .bool m.series.chartable),
    ("chart_min", m.series.leastJson),
    ("chart_max", .ofOption .float m.upper)]

def toJson (m : Metric) : Json :=
  .obj [("name", .str m.name), ("spec", m.specJson), ("status", m.statusJson)]

end Metric

def Summary.toJson (s : Summary) : Json :=
  .obj [("phase", .str s.phase),
    ("title", .str s.title),
    ("substatus", .ofText? (s.flag.map Flag.text)),
    ("message", .ofText? s.message),
    ("start_time", .ofInt? s.startTime),
    ("end_time", .ofInt? s.endTime)]

structure Report where
  name : Option String
  summary : Summary
  metrics : List Metric
  log : List LogEntry

/-- A file to be written. The content is missing where it is not text. -/
structure OutputFile where
  path : List String
  text : Option String
deriving DecidableEq

namespace Report

def ofRun (settings : Settings) (run : Run) : Except Fault Report := do
  let metrics ← Metrics.ofSnapshot settings run.snapshot
  let summary ← Summary.ofRun run
  return ⟨run.name, summary, metrics.sorted, metrics.log⟩

def metricsJson (r : Report) : Json :=
  .obj [("name", .ofText? r.name), ("metrics", .arr (r.metrics.map Metric.toJson))]

def toJson (r : Report) : Json :=
  .obj [("name", .ofText? r.name), ("summary", r.summary.toJson),
    ("metrics", .arr (r.metrics.map Metric.toJson))]

def metricsPath : List String := ["summary", "metrics.json"]

/-- What comes of writing one file: the file, if it is made, and the fault that ends the writing. -/
structure Step where
  file : Option OutputFile
  fault : Option Fault

/-- A file with a tree. It is not made where an integer cannot be written. -/
def treeStep (settings : Settings) (path : List String) (tree : Json) : Step :=
  if tree.isWritable then ⟨some ⟨path, some (tree.report settings.indent)⟩, none⟩
  else ⟨none, some .unwritableInteger⟩

def tableStep (format : TableFormat) (m : Metric) : Step :=
  let written := Table.write format m
  let path := ["tables", Table.fileStem m.name ++ "." ++ format.name]
  ⟨written.file.map fun text => ⟨path, text⟩, written.fault⟩

def steps (settings : Settings) (r : Report) : List Step :=
  treeStep settings ["summary", "analysis.json"] r.summary.toJson ::
    treeStep settings metricsPath r.metricsJson ::
    r.metrics.map (tableStep settings.tableFormat)

def untilFault : List Step → List OutputFile × Option Fault
  | [] => ([], none)
  | step :: steps =>
    match step.fault with
    | some fault => (step.file.toList, some fault)
    | none => (step.file.toList ++ (untilFault steps).1, (untilFault steps).2)

/-- The files of a report, in the order in which they are written, with the fault that ends the
writing. A later file takes the place of an earlier one of the same path. -/
def files (settings : Settings) (r : Report) : List OutputFile × Option Fault :=
  untilFault (r.steps settings)

def logWithFiles (folder : String) (r : Report) : List LogEntry :=
  r.log ++ [.tablesWritten r.metrics.length (folder ++ "/tables")]

end Report

end RunCharts
