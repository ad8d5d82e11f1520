import RunCharts.Calendar.Lexeme

/-!
# The words of dates

Words count without regard to the case of their letters, but the name of a zone is in capitals.
-/

namespace RunCharts

inductive TimeUnit where
  | hour
  | minute
  | second
deriving DecidableEq, Repr

inductive HalfDay where
  | morning
  | afternoon
deriving DecidableEq, Repr

/-- The hour of the day of an hour up to twelve in one half of it. Later hours stay as they are. -/
def HalfDay.hour (half : HalfDay) (hour : Nat) : Nat :=
  match half with
  | .morning => if hour = 12 then 0 else hour
  | .afternoon => if hour < 12 then hour + 12 else hour

namespace Lexeme

def spelling? : Lexeme → Option String
  | word letters => some (String.ofList (letters.map Char.toLower))
  | _ => none

def rowOf? (rows : List (List String)) (l : Lexeme) : Option Nat :=
  l.spelling?.bind fun s => rows.findIdx? (·.contains s)

/-- The day of the week, Monday being 0. -/
def weekday? : Lexeme → Option Nat :=
  rowOf? [["mon", "monday"], ["tue", "tuesday"], ["wed", "wednesday"], ["thu", "thursday"],
    ["fri", "friday"], ["sat", "saturday"], ["sun", "sunday"]]

/-- The month, January being 1. -/
def month? (l : Lexeme) : Option Nat :=
  (l.rowOf? [["jan", "january"], ["feb", "february"], ["mar", "march"], ["apr", "april"], ["may"],
    ["jun", "june"], ["jul", "july"], ["aug", "august"], ["sep", "sept", "september"],
    ["oct", "october"], ["nov", "november"], ["dec", "december"]]).map (· + 1)

def unit? (l : Lexeme) : Option TimeUnit :=
  (l.rowOf? [["h", "hour", "hours"], ["m", "minute", "minutes"], ["s", "second", "seconds"]]).bind
    ([.hour, .minute, .second][·]?)

def halfDay? (l : Lexeme) : Option HalfDay :=
  (l.rowOf? [["am", "a"], ["pm", "p"]]).bind ([.morning, .afternoon][·]?)

/-- Whether a lexeme says nothing: a blank, a separator, a joining word or the ending of an
ordinal. -/
def isFiller : Lexeme → Bool
  | mark c => [' ', '.', ',', ';', '-', '/', '\''].contains c
  | l => l.spelling?.any
      ["at", "on", "and", "ad", "m", "t", "of", "st", "nd", "rd", "th"].contains

def isOf (l : Lexeme) : Bool := l.spelling? == some "of"

def sign? : Lexeme → Option Bool
  | mark '+' => some true
  | mark '-' => some false
  | _ => none

def universalZones : List (List Char) := [['U', 'T', 'C'], ['G', 'M', 'T'], ['Z'], ['z']]

/-- The name of a zone: at most five capitals. -/
def zoneName? : Lexeme → Option (List Char)
  | word letters =>
    if letters.length ≤ 5 &&
        ((letters.all fun c => 'A' ≤ c && c ≤ 'Z') || universalZones.contains letters) then
      some letters
    else none
  | _ => none

def isNotFinite (l : Lexeme) : Bool := l.spelling?.any ["nan", "inf", "infinity"].contains

end Lexeme

end RunCharts
