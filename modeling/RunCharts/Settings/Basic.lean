import RunCharts.Binary64.Basic
import RunCharts.Log

/-!
# Settings

What a user can choose: the headroom of the charts, whether values are read strictly, how reports
and tables are written, and how much is logged.
-/

namespace RunCharts

inductive TableFormat where
  | csv
  | parquet
deriving DecidableEq, Repr

namespace TableFormat

/-- The name of a format, which is also the ending of its files. -/
def name : TableFormat → String
  | csv => "csv"
  | parquet => "parquet"

def all : List TableFormat := [csv, parquet]

def ofName? (name : String) : Option TableFormat := all.find? fun f => f.name = name

end TableFormat

namespace Settings

def leastHeadroom : Binary64 := .ofInt 1

def defaultHeadroom : Binary64 := .ofRatio 12 10

theorem isAtLeast_defaultHeadroom : defaultHeadroom.isAtLeast leastHeadroom = true := by
  decide +kernel

end Settings

structure Settings where
  headroom : Binary64
  /-- Whether a value that cannot be decoded is a fault. -/
  strictValues : Bool
  tableFormat : TableFormat
  /-- Spaces per level in reports; none means a report on one line. -/
  indent : Nat
  level : Level
  isAtLeast_headroom : headroom.isAtLeast Settings.leastHeadroom = true

def Settings.default : Settings :=
  ⟨defaultHeadroom, true, .csv, 2, .info, isAtLeast_defaultHeadroom⟩

end RunCharts
