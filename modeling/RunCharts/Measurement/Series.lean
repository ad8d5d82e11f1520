import RunCharts.Log
import RunCharts.Measurement.Reading
import RunCharts.Run.Basic

/-!
# Series

The measurements of a metric with their readings, and what the chart takes from all of them: whether
it can show them, and the bounds of their numbers. A series is read strictly, where one value that
cannot be decoded is a fault, or leniently, where it is shown in the table as it stands.
-/

namespace RunCharts

namespace Measurement

structure Row where
  measurement : Measurement
  reading : Reading
  /-- Whether the value could not be decoded. -/
  undecodable : Bool
deriving DecidableEq

namespace Row

def number? (row : Row) : Option Binary64 :=
  match row.reading.canChart, row.reading.chart with
  | true, .single (.number x) => if x.isFinite then some x else none
  | _, _ => none

def log (row : Row) : List LogEntry :=
  if row.undecodable then [.undecodable (row.measurement.value.getD "")] else []

end Row

def rawDisplay (value : Option String) : Display := .single ((value.map Cell.text).getD .none)

def toRow (strict : Bool) (keys : List String) (m : Measurement) : Except Fault Row :=
  match read keys m.value with
  | .ok reading => .ok ⟨m, reading, false⟩
  | .error fault =>
    if fault.isValueFault && !strict then .ok ⟨m, .tableOnly (rawDisplay m.value), true⟩
    else .error fault

end Measurement

structure Series where
  rows : List Measurement.Row
deriving DecidableEq

namespace Series

/-- The series of measurements. The first fault ends it. -/
def ofMeasurements (strict : Bool) (keys : List String) (ms : List Measurement) :
    Except Fault Series :=
  (ms.mapM (Measurement.toRow strict keys)).map Series.mk

/-- Whether the chart can show every row. A series without rows is not shown. -/
def chartable (s : Series) : Bool := !s.rows.isEmpty && s.rows.all fun r => r.reading.canChart

def numbers (s : Series) : List Binary64 := s.rows.filterMap Measurement.Row.number?

/-- The lesser of two numbers; of two that are level, the first. -/
def lesser (x y : Binary64) : Binary64 := if y.lt x then y else x

/-- The greater of two numbers; of two that are level, the first. -/
def greater (x y : Binary64) : Binary64 := if x.lt y then y else x

def least (s : Series) : Binary64 := s.numbers.foldl lesser (.zero false)

def greatest (s : Series) : Option Binary64 :=
  match s.numbers with
  | [] => none
  | x :: xs => some (xs.foldl greater x)

def log (s : Series) : List LogEntry := s.rows.flatMap Measurement.Row.log

end Series

end RunCharts
