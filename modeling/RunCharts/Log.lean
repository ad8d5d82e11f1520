import RunCharts.Text.Quoted

/-!
# Log entries

What is reported beside a result, and from which level on.
-/

namespace RunCharts

inductive Level where
  | debug
  | info
  | warning
  | error
deriving DecidableEq, Repr

namespace Level

def rank : Level → Nat
  | debug => 0
  | info => 1
  | warning => 2
  | error => 3

def name : Level → String
  | debug => "DEBUG"
  | info => "INFO"
  | warning => "WARNING"
  | error => "ERROR"

def all : List Level := [debug, info, warning, error]

def ofName? (name : String) : Option Level := all.find? fun l => l.name = name

theorem ofName?_name (l : Level) : ofName? l.name = some l := by cases l <;> decide

end Level

inductive LogEntry where
  /-- A measurement value that is shown in the table only, since it is not JSON. -/
  | undecodable (raw : String)
  /-- A metric result of a name that the spec does not have. -/
  | withoutSpec (name : String)
  | tablesWritten (count : Nat) (folder : String)
deriving DecidableEq, Repr

namespace LogEntry

def level : LogEntry → Level
  | undecodable _ => .warning
  | withoutSpec _ => .debug
  | tablesWritten .. => .info

def message : LogEntry → String
  | undecodable raw =>
    "Measurement value could not be decoded; showing it as table-only: " ++ Text.quoted raw
  | withoutSpec name => "Skipping metric result without a matching spec: " ++ name
  | tablesWritten count folder =>
    "Wrote " ++ toString count ++ " metric tables to " ++ folder

def visible (level : Level) (entries : List LogEntry) : List LogEntry :=
  entries.filter fun e => level.rank ≤ e.level.rank

end LogEntry

end RunCharts
