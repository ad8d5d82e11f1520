import RunCharts.Calendar.Reading
import RunCharts.Text.Blank
import RunCharts.Text.DecimalDigit

/-!
# Dates with the year in front

ISO 8601 texts and their neighbours: a year of four digits, a month and a day, perhaps a time with
a fraction of a second, perhaps a zone. The parts of a date stand between equal separators or close
together, those of a time between colons or close together; parts that are kept apart may have a
single digit. Week dates and day numbers are not read. A minus sign in front puts the year before
year 1, and so does a missing year.
-/

namespace RunCharts.Iso

open Text

def takeNumber (n : Nat) (cs : List Char) : Option (Nat × List Char) :=
  if (cs.take n).length = n ∧ (cs.take n).all isAsciiDigit then
    some (valueOfAscii (cs.take n), cs.drop n)
  else none

def takeShort (cs : List Char) : Option (Nat × List Char) :=
  match takeNumber 2 cs with
  | some r => some r
  | none => takeNumber 1 cs

def separators : List Char := ['-', '.', '/', '\\', ' ']

/-- The date in front of a text, given its year. Close together, month and day come both. -/
def takeMonthDay (year : Nat) : List Char → Option (Date × List Char)
  | [] => some (⟨year, 1, 1⟩, [])
  | c :: cs => do
    if isAsciiDigit c then
      let (month, cs) ← takeNumber 2 (c :: cs)
      let (day, cs) ← takeNumber 2 cs
      some (⟨year, month, day⟩, cs)
    else if separators.contains c then
      let (month, cs) ← takeShort cs
      match cs with
      | [] => some (⟨year, month, 1⟩, [])
      | s :: cs =>
        let (day, cs) ← if s = c then takeShort cs else none
        some (⟨year, month, day⟩, cs)
    else none

/-- The date in front of a text. Where its year is missing it is the year 0. -/
def takeDate (cs : List Char) : Option (Date × List Char) :=
  match takeNumber 4 cs with
  | some (year, cs) => takeMonthDay year cs
  | none => if cs.isEmpty then none else takeMonthDay 0 cs

def takeField (colons : Bool) (cs : List Char) : Option (Option Nat × List Char) :=
  match colons, cs with
  | true, ':' :: cs => (takeShort cs).map fun r => (some r.1, r.2)
  | true, cs => some (none, cs)
  | false, cs =>
    if cs.head?.any isAsciiDigit then (takeNumber 2 cs).map fun r => (some r.1, r.2)
    else some (none, cs)

def takeFraction (cs : List Char) : List Nat × List Char :=
  match cs with
  | '.' :: cs => (asciiDigits (cs.takeWhile isAsciiDigit), cs.dropWhile isAsciiDigit)
  | cs => ([], cs)

/-- The longest fraction of a second: it reaches to attoseconds. -/
def fractionLimit : Nat := 18

/-- A time in front, with the digits of its fraction. An hour of one digit is not the whole time. -/
def takeTime (cs : List Char) : Option ((TimeOfDay × List Nat) × List Char) := do
  let (hour, rest) ← takeShort cs
  let colons := rest.head? == some ':'
  let (minute?, rest) ← takeField colons rest
  let some minute := minute? |
    if (takeNumber 2 cs).isSome then some ((⟨hour, 0, 0, 0⟩, []), rest) else none
  let (second?, rest) ← takeField colons rest
  let some second := second? | some ((⟨hour, minute, 0, 0⟩, []), rest)
  let (fraction, rest) := takeFraction rest
  if fraction.length ≤ fractionLimit then
    some ((⟨hour, minute, second, nanosecondsOf fraction⟩, fraction), rest)
  else none

def offset? (cs : List Char) : Option Nat := do
  let (hours, rest) ← takeShort cs
  let (minutes, rest) ← match rest with
    | [] => some (0, [])
    | ':' :: rest => takeShort rest
    | rest => takeShort rest
  if hours < 24 && minutes < 60 && rest.all isAsciiBlank then some (hours * 60 + minutes) else none

def zone? (cs : List Char) : Option (Option Int) :=
  match cs.dropWhile isAsciiBlank with
  | [] => some none
  | 'Z' :: cs => if cs.all isAsciiBlank then some (some 0) else none
  | '+' :: cs => (offset? cs).map fun m => some m
  | '-' :: cs => (offset? cs).map fun m => some (-m)
  | _ => none

/-- The date-time that a text denotes, its parts in range or not, and the digits of its fraction. -/
def parse? (cs : List Char) : Option (DateTime × List Nat) := do
  let (date, rest) ← takeDate cs
  match rest with
  | [] => some (⟨date, .midnight, none⟩, [])
  | c :: rest =>
    if c == 'T' || c == ' ' then
      let ((time, fraction), rest) ← takeTime rest
      let zone ← zone? rest
      some (⟨date, time, zone⟩, fraction)
    else none

def dropMinus : List Char → List Char
  | '-' :: cs => cs
  | cs => cs

/-- What a text is in this form. Parts out of range make it none of this form. -/
def read (text : List Char) : Reading :=
  match parse? (dropMinus (text.dropWhile isAsciiBlank)) with
  | none => .unread
  | some (t, fraction) =>
    if t.date.InYear ∧ t.time.Valid then
      if t.date.Valid ∧ text.head? ≠ some '-' then .stamp t fraction else .early fraction
    else .unread

end RunCharts.Iso
