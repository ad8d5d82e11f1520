import RunCharts.Document.Basic
import RunCharts.Fault

/-!
# Displayed documents

The text that stands for a document where a text is called for. A text stands for itself; inside
lists and mappings it is quoted, and a date is written with its parts. A collection inside itself
is shown as points between its brackets. An integer of too many digits has no text.
-/

namespace RunCharts

/-- Displayed numbers: positional between `10 ^ -4` and `10 ^ 16`. -/
def displayStyle : NumberStyle := ⟨-4, 16, 2, "inf", "nan"⟩

def padded (width n : Nat) : String :=
  let ds := NumberStyle.digits n
  String.ofList (NumberStyle.zeros (width - ds.length) ++ ds)

def intText (n : Int) : String := String.ofList (Json.intChars n)

def bracketed (left right : Char) (items : List String) : String :=
  left.toString ++ ", ".intercalate items ++ right.toString

def Date.text (d : Date) : String :=
  padded 4 d.year ++ "-" ++ padded 2 d.month ++ "-" ++ padded 2 d.day

def Date.display (d : Date) : String :=
  "datetime.date(" ++ ", ".intercalate [toString d.year, toString d.month, toString d.day] ++ ")"

def TimeOfDay.text (t : TimeOfDay) : String :=
  let micros := t.nanosecond / 1000
  padded 2 t.hour ++ ":" ++ padded 2 t.minute ++ ":" ++ padded 2 t.second ++
    if micros = 0 then "" else "." ++ padded 6 micros

namespace DateTime

def offsetText (minutes : Int) : String :=
  (if minutes < 0 then "-" else "+") ++ padded 2 (minutes.natAbs / 60) ++ ":" ++
    padded 2 (minutes.natAbs % 60)

/-- Date, time and offset in ISO form, with a space between date and time. -/
def text (t : DateTime) : String :=
  t.date.text ++ " " ++ t.time.text ++ (t.offset.map offsetText).getD ""

def offsetDisplay (minutes : Int) : String :=
  if minutes = 0 then "datetime.timezone.utc"
  else "datetime.timezone(" ++ CalendarFault.spanText minutes ++ ")"

/-- The date-time with its parts. Seconds and microseconds are left out at the end where zero. -/
def display (t : DateTime) : String :=
  let micros := t.time.nanosecond / 1000
  let small :=
    if micros ≠ 0 then [t.time.second, micros]
    else if t.time.second ≠ 0 then [t.time.second] else []
  let numbers := [t.date.year, t.date.month, t.date.day, t.time.hour, t.time.minute] ++ small
  let zone := t.offset.toList.map fun m => "tzinfo=" ++ offsetDisplay m
  "datetime.datetime(" ++ ", ".intercalate (numbers.map toString ++ zone) ++ ")"

end DateTime

namespace Scalar

def asText : Scalar → Except Fault String
  | null => .ok "None"
  | bool b => .ok (if b then "True" else "False")
  | int n => if Numeral.isWritable n then .ok (intText n) else .error .unwritableInteger
  | float x => .ok (displayStyle.text x)
  | text s => .ok s
  | bytes bs => .ok (Text.quotedBytes bs)
  | date d => .ok d.text
  | dateTime t => .ok t.text

def display : Scalar → Except Fault String
  | text s => .ok (Text.quoted s)
  | date d => .ok d.display
  | dateTime t => .ok t.display
  | s => s.asText

/-- Scalars between braces; an empty set has a name of its own. -/
def displaySet (items : List Scalar) : Except Fault String :=
  if items.isEmpty then .ok "set()" else (items.mapM display).map (bracketed '{' '}')

end Scalar

namespace Document

def displayBack (isList : Bool) : String :=
  if isList then bracketed '[' ']' ["..."] else bracketed '{' '}' ["..."]

/-- A collection inside itself, by its untied knot. -/
def displayAgain : Document → String
  | list _ => displayBack true
  | _ => displayBack false

mutual

/-- The document inside a list or mapping. `path` holds the labels of the knots around it. That the
stack may run out on a document that nests deeply is left out. -/
def display (path : List Nat) : Document → Except Fault String
  | scalar s => s.display
  | list items => (displayItems path items).map (bracketed '[' ']')
  | mapping entries => (displayEntries path entries).map (bracketed '{' '}')
  | pair key value => do
    let k ← display path key
    let v ← display path value
    return bracketed '(' ')' [k, v]
  | set items => Scalar.displaySet items
  | knot label body =>
    if path.contains label then .ok body.displayAgain else display (label :: path) body
  | back _ isList => .ok (displayBack isList)

def displayItems (path : List Nat) : List Document → Except Fault (List String)
  | [] => .ok []
  | d :: ds => do
    let s ← display path d
    let ss ← displayItems path ds
    return s :: ss

def displayEntries (path : List Nat) : List (Scalar × Document) → Except Fault (List String)
  | [] => .ok []
  | (key, d) :: entries => do
    let k ← key.display
    let s ← display path d
    let ss ← displayEntries path entries
    return (k ++ ": " ++ s) :: ss

end

def text : Document → Except Fault String
  | scalar s => s.asText
  | d => d.display []

def text? : Document → Except Fault (Option String)
  | scalar .null => .ok none
  | d => d.text.map some

end Document

end RunCharts
