import RunCharts.Binary64.Hundredths
import RunCharts.Document.Display
import RunCharts.Json.Reader

/-!
# Decoded values

A measurement value is a JSON text. This module says what kind of value it is for a chart, and how
it is shown: numbers rounded to hundredths, everything else by its text. The text is made call by
call; a value can be decoded and yet nest too deeply for the calls that may be open at once.
-/

namespace RunCharts

def Fault.ofValueError (raw : String) : Json.ReadError → Fault
  | .malformed => .valueMalformed raw
  | .constant name => .valueConstant name
  | .hugeInteger digits => .hugeInteger digits
  | .tooDeep => .valueTooDeep

namespace Measurement

/-- The value of a measurement text. Words for numbers without a value are refused. -/
def decode (raw : String) : Except Fault Json :=
  (Json.read .refused raw).mapError (Fault.ofValueError raw)

inductive Shape where
  | number
  | string
  | null
  | array
  | object
  | unsupported
deriving DecidableEq, Repr

inductive Cell where
  | none
  | number (x : Binary64)
  | text (s : String)
deriving DecidableEq

/-- What is shown for a value: one thing, or one under each key of the conditions. -/
inductive Display where
  | single (c : Cell)
  | keyed (entries : List (String × Cell))
deriving DecidableEq

abbrev Display.none : Display := single .none

abbrev Display.text (s : String) : Display := single (.text s)

end Measurement

namespace Json

def finite? : Json → Option Binary64
  | int n => if (Binary64.ofInt n).isFinite then some (.ofInt n) else none
  | float x => if x.isFinite then some x else none
  | _ => none

/-- Whether a value is finite or null, which a chart takes for a gap. -/
def isChartable : Json → Bool
  | null => true
  | j => j.finite?.isSome

/-- The kind of a value. An array without items is not supported, and neither are truth values and
numbers that are not finite. -/
def shape (j : Json) : Measurement.Shape :=
  if j.finite?.isSome then .number
  else match j with
    | null => .null
    | str _ => .string
    | arr (_ :: _) => .array
    | obj _ => .object
    | _ => .unsupported

def floatPlain (x : Binary64) : String :=
  match x.toInt? with
  | some n => intText n
  | none => displayStyle.text x

mutual

/-- The plain text of a value, as far as it can be made (`isShowable`). Items of an array are joined
by commas, null among them being empty; an object is written as compact JSON. -/
def plain : Json → String
  | null => "null"
  | bool b => if b then "true" else "false"
  | int n => intText n
  | float x => floatPlain x
  | str s => s
  | arr items => ",".intercalate (plainItems items)
  | obj fields => (obj fields).text .compact

def plainItems : List Json → List String
  | [] => []
  | null :: items => "" :: plainItems items
  | item :: items => plain item :: plainItems items

end

mutual

/-- How many calls are open at once where most are, while the plain text is made. An array takes
three, and so does each array in it. The writer of objects starts with five calls and takes one for
each bracket. -/
def calls : Json → Nat
  | null | bool _ | str _ => 1
  | int _ | float _ => 2
  | arr items => callsOfItems items + 3
  | obj fields => (obj fields).depth + 5

def callsOfItems : List Json → Nat
  | [] => 0
  | null :: items => callsOfItems items
  | item :: items => max (calls item) (callsOfItems items)

end

/-- How many calls there is room for, if the first one comes from an almost empty stack. Every call
around it takes one of them, which is left out. -/
def callLimit : Nat := 998

/-- Whether the calls for the plain text stay within the limit. Where they do not, no text is made and
the reading of the value is a fault. -/
def isShowable (j : Json) : Bool := decide (j.calls ≤ callLimit)

def cell (j : Json) : Measurement.Cell :=
  match j.finite? with
  | some x => .number x.toHundredths
  | none => match j with
    | null => .none
    | j => .text j.plain

end Json

end RunCharts
