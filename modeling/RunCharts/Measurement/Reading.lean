import RunCharts.Entries
import RunCharts.Measurement.Value
import RunCharts.Text.DecimalDigit

/-!
# Readings

What a chart and a table show for one measurement value. The keys of the metric's conditions choose
a part of it: one key that is a number chooses an item of an array, and keys choose the fields of an
object. Without a choice an array is charted by its first item.
-/

namespace RunCharts

namespace Measurement

structure Reading where
  /-- Whether the chart can show the value, if only as a gap. -/
  canChart : Bool
  chart : Display
  table : Display
deriving DecidableEq

namespace Reading

/-- A gap in the chart, and nothing in the table. -/
def gap : Reading := ⟨true, .none, .none⟩

def tableOnly (table : Display) : Reading := ⟨false, .none, table⟩

def both (canChart : Bool) (shown : Display) : Reading := ⟨canChart, shown, shown⟩

end Reading

/-- The index that a key stands for: a key of decimal digits. -/
def index? (key : String) : Except Fault (Option Nat) :=
  let digits := key.toList.filterMap Text.digitValue?
  if key ≠ "" ∧ key.toList.all Text.isDecimalDigit then
    if Numeral.digitLimit < digits.length then .error (.hugeInteger digits.length)
    else .ok (some (Text.valueOfDigits digits))
  else .ok none

/-- The reading of one item of an array under a key. Items that are objects, arrays or truth values
are shown in the table only. -/
def readItem (key : String) (item : Json) : Reading :=
  if item.shape = .number ∨ item.shape = .string ∨ item.shape = .null then
    .both item.isChartable (.keyed [(key, item.cell)])
  else .tableOnly (.keyed [(key, .text item.plain)])

def readArray (keys : List String) (first : Json) (items : List Json) : Except Fault Reading :=
  match keys with
  | [key] => do
    match ← index? key with
    | none => return .tableOnly (.text (Json.arr items).plain)
    | some i => return readItem key (items[i]?.getD .null)
  | _ =>
    let canChart := first.isChartable
    .ok ⟨canChart, if canChart then .single first.cell else .none, .text (Json.arr items).plain⟩

def fieldCells (keys : List String) (fields : List (String × Json)) : List (String × Cell) :=
  upsertAll (keys.map fun key => (key, ((lookup key fields).map Json.cell).getD .none))

/-- The reading of an object. It is no point of the chart if there is nothing under any key. -/
def readObject (keys : List String) (fields : List (String × Json)) : Reading :=
  let cells := fieldCells keys fields
  let chartable := keys.all fun key => ((lookup key fields).map Json.isChartable).getD true
  .both (chartable && !cells.all fun c => c.2 = .none) (.keyed cells)

/-- The parts of a value that are shown, as the keys choose them. -/
def shownParts (keys : List String) : Json → List Json
  | .arr (first :: items) =>
    match keys with
    | [key] =>
      match index? key with
      | .ok (some i) => [(first :: items)[i]?.getD .null]
      | .ok none => [.arr (first :: items)]
      | .error _ => []
    | _ => [.arr (first :: items)]
  | .obj fields => if keys.isEmpty then [.obj fields] else keys.filterMap (lookup · fields)
  | j => [j]

/-- What a value is read as, however deeply it nests. -/
def readForm (keys : List String) (j : Json) : Except Fault Reading :=
  match j.finite? with
  | some x => .ok (.both true (.single (.number x.toHundredths)))
  | none =>
    match j with
    | .null => .ok .gap
    | .arr (first :: items) => readArray keys first (first :: items)
    | .obj fields =>
      if keys.isEmpty then .ok (.tableOnly (.text j.plain)) else .ok (readObject keys fields)
    | j => .ok (.tableOnly (.text j.plain))

/-- The reading of a value. There is none where the text of a part that is shown nests too deeply to
be made. -/
def readJson (keys : List String) (j : Json) : Except Fault Reading := do
  let r ← readForm keys j
  if (shownParts keys j).all Json.isShowable then return r else throw .displayTooDeep

/-- The reading of a value's text. No text and an empty one are a gap. -/
def read (keys : List String) : Option String → Except Fault Reading
  | none => .ok .gap
  | some raw => if raw = "" then .ok .gap else (decode raw).bind (readJson keys)

end Measurement

end RunCharts
