import RunCharts.Calendar.Reading
import RunCharts.Decimal.Numeral

/-!
# Short forms of dates

Month, day and year in figures, a year alone, a quarter of a year, a month of a year. Figures give
the month first; where it cannot be a month it is the day.
-/

namespace RunCharts.Shorthand

open Text

def delimiters : List Char := [' ', '/', '-', '.', '\x00']

/-- A date in figures with a year of four digits from 1000 on; the day may be missing after a month
of two digits. -/
def figures (cs : List Char) : Reading :=
  match cs.splitBy fun a b => isAsciiDigit a && isAsciiDigit b with
  | [first, [c], second, [d], year] =>
    if [first, second, year].all (·.all isAsciiDigit) && first.length ≤ 2 && second.length ≤ 2 &&
        delimiters.contains c && delimiters.contains d then
      dated (valueOfAscii first) (valueOfAscii second) true year
    else .unread
  | [month, [c], year] =>
    if [month, year].all (·.all isAsciiDigit) && month.length = 2 && delimiters.contains c &&
        c != '.' then
      dated (valueOfAscii month) 1 false year
    else .unread
  | _ => .unread
where
  dated (month day : Nat) (hasDay : Bool) (year : List Char) : Reading :=
    if year.length = 4 && 1000 ≤ valueOfAscii year then
      .ofDate (if hasDay && 12 < month then ⟨valueOfAscii year, day, month⟩
        else ⟨valueOfAscii year, month, day⟩)
    else .unread

def dateOrUnread (year : Int) (month : Nat) : Reading :=
  if (⟨year.toNat, month, 1⟩ : Date).Valid then .ofDate ⟨year.toNat, month, 1⟩ else .unread

def integer? (cs : List Char) : Option Int := Numeral.whole? (String.ofList cs)

def yearAlone (cs : List Char) : Reading :=
  if cs.length = 4 then
    match integer? cs with
    | some year => dateOrUnread year 1
    | none => .unread
  else .unread

def yearPart? (dropHyphen : List Char → List Char) (cs : List Char) : Option Int :=
  let year := if cs.length = 3 || cs.length = 5 then dropHyphen cs else cs
  if year.length = 2 then (integer? year).map (2000 + ·)
  else if year.length = 4 then integer? year
  else none

def dropHyphen : List Char → List Char
  | '-' :: cs => cs
  | cs => cs

/-- A quarter: a digit, the letter Q and a year of two or four digits, or the other way round. Years
of two digits count from 2000. -/
def quarter (cs : List Char) : Reading :=
  let isQ := fun c => c == 'Q' || c == 'q'
  let before := cs.take 1 ++ (cs.drop 1).takeWhile (!isQ ·)
  match (cs.drop 1).dropWhile (!isQ ·) with
  | [] => .unread
  | _ :: after =>
    let read : Option (Int × Int) :=
      if before.length = 1 then do
        some (← integer? before, ← yearPart? dropHyphen after)
      else if after.length = 1 then do
        let year ← yearPart? (fun cs => (dropHyphen cs.reverse).reverse) before
        some (← integer? after, year)
      else none
    match read with
    | none => .unread
    | some (q, year) =>
      if 1 ≤ q ∧ q ≤ 4 then dateOrUnread year ((q.toNat - 1) * 3 + 1) else .noInstant

def fourDigits? (cs : List Char) : Option Nat :=
  if cs.length = 4 then (cs.mapM digitValue?).map valueOfDigits else none

/-- A small letter for a letter of either case, the long s being an s. -/
def foldCase (c : Char) : Char := if c == 'ſ' then 's' else c.toLower

def monthOf? (name : List Char) : Option Nat :=
  (["jan", "feb", "mar", "apr", "may", "jun", "jul", "aug", "sep", "oct", "nov", "dec"].findIdx?
    (· == String.ofList (name.map foldCase))).map (· + 1)

def monthFigures? (cs : List Char) : Option Nat :=
  if (1 ≤ cs.length && cs.length ≤ 2) && cs.all isAsciiDigit then some (valueOfAscii cs) else none

def monthOfYear (cs : List Char) : Reading :=
  let read : Option (Nat × Nat) :=
    match fourDigits? (cs.take 4), cs.drop 4 with
    | some year, '-' :: month => (monthFigures? month).map (year, ·)
    | _, _ => do
      let month ← monthOf? (cs.take 3)
      let year ← match cs.drop 3 with
        | '-' :: year => fourDigits? year
        | c :: year => if isStrippable c then fourDigits? (year.dropWhile isStrippable) else none
        | [] => none
      some (year, month)
  match read with
  | some (year, month) => dateOrUnread year month
  | none => .unread

/-- What a text is in the first of these forms that it has. -/
def read (cs : List Char) : Reading :=
  (figures cs).orElse fun _ => (yearAlone cs).orElse fun _ => (quarter cs).orElse fun _ =>
    monthOfYear cs

end RunCharts.Shorthand
