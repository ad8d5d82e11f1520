import RunCharts.Calendar.Reading
import RunCharts.Calendar.Vocabulary

/-!
# Dates in words

Texts such as "Fri, 2 Jan 2026 at 3pm UTC" are read lexeme by lexeme into a draft: up to three
entries of a date, a time, a zone and a day of the week, in any order. Which entry is the year, the
month and the day is decided at the end. What stays open is the first: 1 January of year 1, at
midnight. Words that stand for the time of the clock, such as "now" and "today", are not read.
-/

namespace RunCharts

inductive DateEntry where
  | plain (n : Nat)
  | year (n : Nat)
  | month (n : Nat)
deriving DecidableEq, Repr

namespace DateEntry

def value : DateEntry → Nat
  | plain n | year n | month n => n

def year? : DateEntry → Option Nat
  | year n => some n
  | _ => none

def month? : DateEntry → Option Nat
  | month n => some n
  | _ => none

def plain? : DateEntry → Option Nat
  | plain n => some n
  | _ => none

end DateEntry

structure DateParts where
  year : Option Nat := none
  month : Option Nat := none
  day : Option Nat := none
deriving DecidableEq, Repr

namespace DateParts

def yearOrDay (month : Option Nat) (n : Nat) : DateParts :=
  if 31 < n then { year := n, month } else { month, day := n }

def ofTwo (a b : Nat) : DateParts :=
  if 31 < a then { year := a, month := b }
  else if 31 < b then { year := b, month := a }
  else { month := a, day := b }

/-- Three numbers without a named month; the month leads unless a year or a day does. -/
def ofThree (yearLeads : Bool) (a b c : Nat) : DateParts :=
  if 31 < a || yearLeads then { year := a, month := b, day := c }
  else if 12 < a then { year := c, month := b, day := a }
  else { year := c, month := a, day := b }

def ofNamed (month place a b : Nat) : DateParts :=
  let yearLeads := if place < 2 then decide (31 < a) else decide (b ≤ 31)
  if yearLeads then { year := a, month, day := b } else { year := b, month, day := a }

/-- Which entry is which. More than three entries are no date. -/
def ofEntries? (entries : List DateEntry) : Option DateParts :=
  match entries.findSome? DateEntry.year?, entries.findSome? DateEntry.month?,
      entries.filterMap DateEntry.plain? with
  | year, month, [] => some { year, month }
  | some y, some m, [d] => some { year := y, month := m, day := d }
  | none, month, [n] => some (yearOrDay month n)
  | none, some m, [a, b] => some (ofNamed m (entries.findIdx (·.month?.isSome)) a b)
  | _, none, _ =>
    match entries.map (·.value) with
    | [a, b] => some (ofTwo a b)
    | [a, b, c] => some (ofThree (entries.head?.any (·.year?.isSome)) a b c)
    | _ => none
  | _, _, _ => none

end DateParts

namespace Prose

open Text

structure Draft where
  entries : List DateEntry := []
  hasCentury : Bool := false
  weekday : Option Nat := none
  hour : Option Nat := none
  minute : Option Nat := none
  second : Option Nat := none
  fraction : List Nat := []
  zone : Option (List Char) := none
  offset : Option Int := none
deriving DecidableEq, Repr

/-- The whole number of sixtieths in a fraction, if the fraction is not zero. -/
def sixtieths? (fraction : Option (List Nat)) : Option Nat :=
  match fraction with
  | some ds =>
    if ds.all (· == 0) then none else some (60 * valueOfDigits ds / Nat.pow 10 ds.length)
  | none => none

def isWithin (low high : Nat) (whole : Nat) (fraction : Option (List Nat)) : Bool :=
  low ≤ whole && (whole < high || (whole == high && (sixtieths? fraction).isNone))

/-- Years of two digits are those from 1976 to 2075, as they are where the clock says 2026; in other
years the century would be another. -/
def inCentury (hasCentury : Bool) (year : Nat) : Nat :=
  if hasCentury || 100 ≤ year then year
  else if year < 76 then year + 2000 else year + 1900

namespace Draft

def addMonth? (d : Draft) (m : Nat) : Option Draft :=
  if d.entries.any (·.month?.isSome) then none
  else some { d with entries := d.entries ++ [.month m] }

def addYear? (d : Draft) (y : Nat) : Option Draft :=
  if d.entries.any (·.year?.isSome) then none
  else some { d with entries := d.entries ++ [.year y], hasCentury := true }

def addPlain (d : Draft) (n : Nat) : Draft := { d with entries := d.entries ++ [.plain n] }

/-- An entry of digits that stand by themselves. More than two are a year. -/
def addDigits? (d : Draft) (digits : List Nat) : Option Draft :=
  if 2 < digits.length then d.addYear? (valueOfDigits digits)
  else some (d.addPlain (valueOfDigits digits))

/-- An entry of a number, whose fraction is dropped. A number above a hundred is a year. -/
def addNumber? (d : Draft) (whole : Nat) (fraction : Option (List Nat)) : Option Draft :=
  if isWithin 0 100 whole fraction then some (d.addPlain whole) else d.addYear? whole

def addLexeme? (d : Draft) : Lexeme → Option Draft
  | .number ds none => d.addDigits? ds
  | _ => none

def addNamed? (d : Draft) (l : Lexeme) : Option Draft :=
  match l.month? with
  | some m => d.addMonth? m
  | none => d.addLexeme? l

def couldBeDay (d : Draft) (whole : Nat) (fraction : Option (List Nat)) : Bool :=
  let last := match d.entries.findSome? (·.month?) with
    | none => 31
    | some m => Date.daysInMonth ((d.entries.findSome? (·.year?)).getD 2000) m
  isWithin 1 last whole fraction

def setMinute (d : Draft) (whole : Nat) (fraction : Option (List Nat)) : Draft :=
  { d with minute := some whole, second := sixtieths? fraction }

def setSecond (d : Draft) (whole : Nat) (fraction : Option (List Nat)) : Draft :=
  { d with second := some whole, fraction := fraction.getD [] }

/-- A number with a unit of time. No unit is smaller than a second. -/
def setUnit (d : Draft) (unit? : Option TimeUnit) (whole : Nat) (fraction : Option (List Nat)) :
    Draft :=
  match unit? with
  | some .hour => { d with hour := some whole, minute := (sixtieths? fraction).or d.minute }
  | some .minute => d.setMinute whole fraction
  | some .second => d.setSecond whole fraction
  | none => d

def takesZone (d : Draft) (offset : Option Int) : Bool :=
  d.hour.isSome && d.zone.isNone && offset.isNone

end Draft

def nextUnit : TimeUnit → Option TimeUnit
  | .hour => some .minute
  | .minute => some .second
  | .second => none

def unitFirst? (ls : List Lexeme) : Option TimeUnit := ls.head?.bind (·.unit?)

def unitAfterBlank? : List Lexeme → Option TimeUnit
  | .mark ' ' :: l :: _ => l.unit?
  | _ => none

/-- The unit of a number and how many of the lexemes ahead belong to it. A unit follows its number,
perhaps after a blank; without one the number goes on from the unit before it. -/
def unitAt? (behind ahead : List Lexeme) : Option (Option TimeUnit × Nat) :=
  match unitFirst? ahead, unitAfterBlank? ahead with
  | some unit, _ => some (unit, 1)
  | none, some unit => some (unit, 2)
  | none, none =>
    let before := if ahead.isEmpty then unitAfterBlank? behind else none
    ((unitFirst? behind).or before).map fun unit => (nextUnit unit, 0)

def readFigures? (d : Draft) (separator : Lexeme) (ahead : List Lexeme) : Option (Draft × Nat) :=
  match ahead with
  | [] => some (d, 1)
  | second :: ahead =>
    if second.isFiller then some (d, 1)
    else do
      let d ← d.addNamed? second
      match ahead with
      | [] => some (d, 2)
      | l :: ahead =>
        if l = separator then do
          let third ← ahead.head?
          some (← d.addNamed? third, 4)
        else some (d, 2)

def readClock? (d : Draft) (ahead : List Lexeme) : Option (Draft × Nat) :=
  match ahead with
  | .number minute fraction :: ahead =>
    let d := d.setMinute (valueOfDigits minute) fraction
    match ahead with
    | .mark ':' :: .number second fraction :: _ =>
      some (d.setSecond (valueOfDigits second) fraction, 4)
    | .mark ':' :: _ :: _ => none
    | _ => some (d, 2)
  | _ => none

def addCompact? (d : Draft) (yearLength : Nat) (digits : List Nat) :
    Option (Draft × List Nat) := do
  let d ← d.addDigits? (digits.take yearLength)
  let digits := digits.drop yearLength
  let d ← d.addDigits? (digits.take 2)
  let d ← d.addDigits? ((digits.drop 2).take 2)
  some (d, digits.drop 4)

def setCompactTime (d : Draft) (digits : List Nat) : Draft :=
  { d with hour := some (valueOfDigits (digits.take 2)),
           minute := some (valueOfDigits ((digits.drop 2).take 2)) }

/-- Digits close together: a time `HHMMSS`, or a date, perhaps with a time. None if the number of
digits is of neither kind. -/
def readCompact? (d : Draft) (digits : List Nat) (fraction : Option (List Nat)) :
    Option (Option Draft) :=
  let length := digits.length + (fraction.map (·.length + 1)).getD 0
  if digits.length = 6 then
    if d.entries.isEmpty && fraction.isNone then some ((addCompact? d 2 digits).map (·.1))
    else some ((setCompactTime d digits).setSecond (valueOfDigits (digits.drop 4)) fraction)
  else if length = 6 then some none
  else if length = 8 || length = 12 || length = 14 then
    if fraction.isSome then some none
    else some do
      let (d, time) ← addCompact? d 4 digits
      let d := if time.isEmpty then d else setCompactTime d time
      some (if 4 < time.length then { d with second := some (valueOfDigits (time.drop 4)) } else d)
  else none

/-- Whether a number of two or four digits after a whole date is a time without colons. -/
def isTimeAfterDate (d : Draft) (length : Nat) (ahead : List Lexeme) : Bool :=
  d.entries.length = 3 && (length = 2 || length = 4) && d.hour.isNone &&
    ahead.head?.all fun l => l != .mark ':' && l.unit?.isNone

def readEntry? (d : Draft) (digits : List Nat) (fraction : Option (List Nat))
    (ahead : List Lexeme) : Option (Draft × Nat) :=
  let whole := valueOfDigits digits
  match ahead with
  | [] => (d.addNumber? whole fraction).map (·, 0)
  | l :: rest =>
    if [.mark '-', .mark '/', .mark '.'].contains l then do
      readFigures? (← d.addLexeme? (.number digits fraction)) l rest
    else if l.isFiller then
      match rest.head?.bind (·.halfDay?) with
      | some half => some ({ d with hour := some (half.hour whole) }, 2)
      | none => (d.addNumber? whole fraction).map (·, 1)
    else
      match l.halfDay? with
      | some half =>
        if whole < 24 then some ({ d with hour := some (half.hour whole) }, 1)
        else if d.couldBeDay whole fraction then (d.addNumber? whole fraction).map (·, 0)
        else none
      | none =>
        if d.couldBeDay whole fraction then (d.addNumber? whole fraction).map (·, 0) else none

def readNumber? (behind : List Lexeme) (digits : List Nat) (fraction : Option (List Nat))
    (ahead : List Lexeme) (d : Draft) : Option (Draft × Nat) :=
  let length := digits.length + (fraction.map (·.length + 1)).getD 0
  if isTimeAfterDate d length ahead then
    if fraction.isSome then none
    else
      let d := { d with hour := some (valueOfDigits (digits.take 2)) }
      some (if length = 4 then { d with minute := some (valueOfDigits (digits.drop 2)) } else d, 0)
  else
    match readCompact? d digits fraction with
    | some read => read.map (·, 0)
    | none =>
      match unitAt? behind ahead, ahead with
      | some (unit?, taken), _ => some (d.setUnit unit? (valueOfDigits digits) fraction, taken)
      | none, .mark ':' :: l :: rest =>
        readClock? { d with hour := some (valueOfDigits digits) } (l :: rest)
      | none, ahead => readEntry? d digits fraction ahead

def readOffset? : List Lexeme → Option (Nat × Nat)
  | .number digits none :: ahead =>
    if digits.length = 4 then
      some (valueOfDigits (digits.take 2) * 60 + valueOfDigits (digits.drop 2), 1)
    else
      match ahead with
      | .mark ':' :: .number minutes none :: _ =>
        some (valueOfDigits digits * 60 + valueOfDigits minutes, 3)
      | .mark ':' :: _ => none
      | _ => if digits.length ≤ 2 then some (valueOfDigits digits * 60, 1) else none
  | _ => none

/-- Sets the offset that follows a sign. The name of the zone may follow in parentheses. -/
def setOffset? (d : Draft) (plus : Bool) (ahead : List Lexeme) : Option (Draft × Nat) := do
  let (minutes, taken) ← readOffset? ahead
  let d := { d with offset := some (if plus then (minutes : Int) else -minutes) }
  match ahead.drop taken with
  | filler :: .mark '(' :: name :: .mark ')' :: _ =>
    match name.zoneName? with
    | some zone =>
      if filler.isFiller && 3 ≤ zone.length && d.takesZone none then
        some ({ d with zone }, taken + 4)
      else some (d, taken)
    | none => some (d, taken)
  | _ => some (d, taken)

/-- Sets the name of the zone. With an offset after it, the name says where UTC is seen from, so
that the offset counts the other way round. -/
def setZone? (d : Draft) (zone : List Char) (ahead : List Lexeme) : Option (Draft × Nat) :=
  match ahead with
  | l :: rest =>
    match l.sign? with
    | some plus => do
      let d := if Lexeme.universalZones.contains zone then d else { d with zone }
      let (d, taken) ← setOffset? d (!plus) rest
      some (d, taken + 1)
    | none => some (named, 0)
  | [] => some (named, 0)
where
  named : Draft := { d with zone, offset := if zone = ['z'] then some 0 else none }

/-- The name of a month, perhaps with figures after it or a year after "of". -/
def readMonth? (d : Draft) (month : Nat) (ahead : List Lexeme) : Option (Draft × Nat) := do
  let d ← d.addMonth? month
  match ahead with
  | .mark c :: rest =>
    if c = '-' || c = '/' then
      let d ← d.addLexeme? (← rest.head?)
      match rest.drop 1 with
      | l :: rest =>
        if l = .mark c then some (← d.addLexeme? (← rest.head?), 4) else some (d, 2)
      | [] => some (d, 2)
    else
      match c, rest with
      | ' ', preposition :: .mark ' ' :: l :: _ =>
        if preposition.isOf then
          match l with
          | .number digits none => some (← d.addYear? (inCentury false (valueOfDigits digits)), 4)
          | .ornate => none
          | _ => some (d, 4)
        else some (d, 0)
      | _, _ => some (d, 0)
  | _ => some (d, 0)

def readLexeme? (behind : List Lexeme) (l : Lexeme) (ahead : List Lexeme) (d : Draft) :
    Option (Draft × Nat) :=
  match l with
  | .number digits fraction => readNumber? behind digits fraction ahead d
  | .ornate | .tangle => none
  | .mark _ =>
    match l.sign? with
    | some plus =>
      if d.hour.isSome then setOffset? d plus ahead
      else if l.isFiller then some (d, 0)
      else none
    | none => if l.isFiller then some (d, 0) else none
  | .word _ =>
    if l.isNotFinite then none
    else match l.weekday?, l.month?, l.halfDay?, l.zoneName? with
      | some day, _, _, _ => some ({ d with weekday := some day }, 0)
      | none, some month, _, _ => readMonth? d month ahead
      | none, none, some half, _ => do
        let hour ← d.hour
        if hour ≤ 12 then some ({ d with hour := some (half.hour hour) }, 0) else none
      | none, none, none, some zone =>
        if d.takesZone d.offset then setZone? d zone ahead
        else if l.isFiller then some (d, 0)
        else none
      | none, none, none, none => if l.isFiller then some (d, 0) else none

/-- Reads lexemes up to the end, those behind being given last first. -/
def draft? (behind : List Lexeme) (d : Draft) : List Lexeme → Option Draft
  | [] => some d
  | l :: ahead => do
    let (d, taken) ← readLexeme? behind l ahead d
    draft? ((ahead.take taken).reverse ++ l :: behind) d (ahead.drop taken)
termination_by ls => ls.length
decreasing_by simp only [List.length_drop, List.length_cons]; omega

namespace Draft

def offset? (d : Draft) : Option (Option Int) :=
  match d.zone with
  | some zone =>
    if Lexeme.universalZones.contains zone then some (some 0)
    else if d.offset.isSome then some d.offset
    else none
  | none => some d.offset

def isBlank (d : Draft) : Bool :=
  d.entries.isEmpty && d.hour.isNone && d.minute.isNone && d.second.isNone

def time (d : Draft) : TimeOfDay :=
  ⟨d.hour.getD 0, d.minute.getD 0, d.second.getD 0, nanosecondsOf d.fraction⟩

/-- The date of the parts. A day of the week counts where the day is open. -/
def date (d : Draft) (parts : DateParts) : Date :=
  let date : Date := ⟨(parts.year.map (inCentury d.hasCentury)).getD 1, parts.month.getD 1,
    parts.day.getD 1⟩
  match d.weekday, parts.day with
  | some weekday, none => if date.Valid then date.onWeekday weekday else date
  | _, _ => date

end Draft

/-- The date-time that a text in words stands for. If `whole`, no part of its date may be open. -/
def read (whole : Bool) (cs : List Char) : Reading :=
  let read : Option (DateTime × List Nat) := do
    let d ← draft? [] {} (Lexeme.ofText cs)
    let parts ← DateParts.ofEntries? d.entries
    let t : DateTime := ⟨d.date parts, d.time, ← d.offset?⟩
    if t.Valid ∧ ¬d.isBlank ∧ ¬(whole ∧ (parts.year.isNone ∨ parts.month.isNone ∨ parts.day.isNone))
    then some (t, d.fraction) else none
  match read with
  | some (t, fraction) => .stamp t fraction
  | none => .noInstant

end Prose

end RunCharts
