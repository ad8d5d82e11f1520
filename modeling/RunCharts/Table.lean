import RunCharts.Csv
import RunCharts.Metric.Basic

/-!
# Measurement tables

One table per metric and one record per measurement. What has no value is an empty field; numbers
keep their point; the entries of a keyed display stand in one field. A text with half of a surrogate
pair cannot be written: in a column of texts it stops the whole table, in any other column the
record.
-/

namespace RunCharts

namespace Table

def columns : List String :=
  ["metric", "phase", "started_at", "finished_at", "value", "chart_value", "message"]

def entryText : Measurement.Cell → String
  | .none => "null"
  | .number x => Json.floatPlain x
  | .text s => s

def displayCell : Measurement.Display → Measurement.Cell
  | .single c => c
  | .keyed entries => .text (", ".intercalate (entries.map fun e => e.1 ++ ": " ++ entryText e.2))

def textCell : Option String → Measurement.Cell
  | none => .none
  | some s => .text s

def rowCells (name : String) (row : Measurement.Row) : List Measurement.Cell :=
  let m := row.measurement
  [.text name, .text m.phase, textCell m.startedAt, textCell m.finishedAt,
    displayCell row.reading.table, displayCell row.reading.chart, textCell m.message]

def field : Measurement.Cell → String
  | .none => ""
  | .number x => displayStyle.text x
  | .text s => s

def rows (m : Metric) : List (List Measurement.Cell) := m.series.rows.map (rowCells m.name)

def records (m : Metric) : List (List String) := columns :: (rows m).map fun r => r.map field

def columnCells (m : Metric) : List (String × List Measurement.Cell) :=
  columns.zipIdx.map fun c => (c.1, (rows m).filterMap fun r => r[c.2]?)

def isNumber : Measurement.Cell → Bool
  | .number _ => true
  | _ => false

def brokenCell? : Measurement.Cell → Option Text.Stretch
  | .text s => Text.firstStretch? s.toList
  | _ => none

/-- The fault of a column of texts. A column with a number in it is not looked at as one. -/
def textFault? (cells : List Measurement.Cell) : Option Fault :=
  if cells.any isNumber then none else (cells.findSome? brokenCell?).map .unencodable

/-- The fault of a column that is to hold one kind: the first value gives the kind. -/
def kindFault? (column : String) (cells : List Measurement.Cell) : Option Fault :=
  let texts := cells.filterMap fun c => match c with
    | .text s => some s
    | _ => none
  match cells.find? fun c => c != .none, texts with
  | some (.number _), s :: _ => some (.textAmongNumbers s column)
  | some (.text _), _ => if cells.any isNumber then some (.numberAmongTexts column) else none
  | _, _ => none

def fault? (m : Metric) : Option Fault := (columnCells m).findSome? fun c => textFault? c.2

/-- What comes of writing a table: its file, if one is made, with the text as far as it is one, and
the fault that ends the writing. -/
structure Written where
  file : Option (Option String)
  fault : Option Fault

def recordsText (records : List (List String)) : String :=
  String.ofList (Csv.write (records.map fun r => r.map String.toList))

def csv (m : Metric) : String := recordsText (records m)

def brokenRecord? (record : List String) : Option Text.Stretch :=
  Text.firstStretch? (Csv.writeRecord (record.map String.toList))

/-- Writes the records up to the first one that cannot be written. -/
def writeCsv (m : Metric) : Written :=
  let front := (records m).takeWhile fun r => (brokenRecord? r).isNone
  let fault := ((records m).findSome? brokenRecord?).map .unencodable
  ⟨some (some (recordsText front)), fault⟩

def writeParquet (m : Metric) : Written :=
  match (columnCells m).findSome? fun c => kindFault? c.1 c.2 with
  | some fault => ⟨none, some fault⟩
  | none => ⟨some none, none⟩

def write (format : TableFormat) (m : Metric) : Written :=
  match fault? m with
  | some fault => ⟨none, some fault⟩
  | none => match format with
    | .csv => writeCsv m
    | .parquet => writeParquet m

def inFormat (name : String) (m : Metric) : Except Fault (Option String) :=
  match fault? m, TableFormat.ofName? name with
  | some fault, _ => .error fault
  | none, none => .error (.tableFormat name)
  | none, some format =>
    match write format m with
    | ⟨_, some fault⟩ => .error fault
    | ⟨file, none⟩ => .ok (file.bind id)

def isSafe (c : Char) : Bool :=
  ('A' ≤ c && c ≤ 'Z') || ('a' ≤ c && c ≤ 'z') || ('0' ≤ c && c ≤ '9') || c == '_' || c == '.' ||
    c == '-'

/-- The characters with every run of unsafe ones as one underscore. `inRun` says whether a run has
begun already. -/
def replaceUnsafe (inRun : Bool) : List Char → List Char
  | [] => []
  | c :: cs =>
    if isSafe c then c :: replaceUnsafe false cs
    else if inRun then replaceUnsafe true cs
    else '_' :: replaceUnsafe true cs

def fileStem (name : String) : String :=
  let stem := Text.trim (· == '_') (replaceUnsafe false name.toList)
  if stem.isEmpty then "metric" else String.ofList stem

end Table

end RunCharts
