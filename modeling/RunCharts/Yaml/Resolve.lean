import RunCharts.Calendar.Iso
import RunCharts.Decimal.Numeral
import RunCharts.Text.Hex
import RunCharts.Text.Split
import RunCharts.Yaml.Tag

/-!
# Kinds of scalars

A scalar without quotes and without a tag has the kind that its text looks like, by the rules of
YAML 1.1: octal numbers start with a zero, colons separate parts to the base sixty, a float has a
point and a signed exponent, and dates are values of their own. A newline at the end of a text does
not count.
-/

namespace RunCharts.Yaml

namespace Resolve

def nullWords : List String := ["", "~", "null", "Null", "NULL"]

def trueWords : List String :=
  ["yes", "Yes", "YES", "true", "True", "TRUE", "on", "On", "ON"]

def falseWords : List String :=
  ["no", "No", "NO", "false", "False", "FALSE", "off", "Off", "OFF"]

def takeSign (cs : List Char) : Bool × List Char := Numeral.takeSign cs

/-- Whether a text consists of characters of a class or underscores, one at least. -/
def isRun (p : Char → Bool) (cs : List Char) : Bool :=
  !cs.isEmpty && cs.all fun c => p c || c == '_'

def isNumeral (first : Char → Bool) : List Char → Bool
  | [] => false
  | c :: cs => first c && cs.all fun c => Text.isAsciiDigit c || c == '_'

/-- Whether a text is a part to the base sixty: below sixty, in one or two digits. -/
def isSixtieth : List Char → Bool
  | [d] => Text.isAsciiDigit d
  | [t, d] => '0' ≤ t && t ≤ '5' && Text.isAsciiDigit d
  | _ => false

def isHexDigit (c : Char) : Bool := (Text.hexValue? c).isSome

def looksLikeMagnitude (cs : List Char) : Bool :=
  match Text.split ':' cs with
  | [] => false
  | [part] =>
    match part with
    | ['0'] => true
    | '0' :: 'b' :: ds => isRun (fun c => c == '0' || c == '1') ds
    | '0' :: 'x' :: ds => isRun isHexDigit ds
    | '0' :: ds => isRun (fun c => '0' ≤ c && c ≤ '7') ds
    | ds => isNumeral (fun c => '1' ≤ c && c ≤ '9') ds
  | first :: parts => isNumeral (fun c => '1' ≤ c && c ≤ '9') first && parts.all isSixtieth

def looksLikeInt (cs : List Char) : Bool := looksLikeMagnitude (takeSign cs).2

def isExponent : List Char → Bool
  | [] => true
  | e :: s :: ds =>
    (e == 'e' || e == 'E') && (s == '+' || s == '-') && !ds.isEmpty && ds.all Text.isAsciiDigit
  | _ => false

/-- Whether a text is a fraction after its point, perhaps with an exponent. -/
def isFraction (cs : List Char) : Bool :=
  isExponent (cs.dropWhile fun c => Text.isAsciiDigit c || c == '_')

def looksLikeFloat (cs : List Char) : Bool :=
  let body := (takeSign cs).2
  let whole := body.takeWhile (· != '.')
  match body.dropWhile (· != '.') with
  | '.' :: fraction =>
    if whole.isEmpty then
      ["inf", "Inf", "INF"].contains (String.ofList fraction) ||
        (body.length == cs.length &&
          (["nan", "NaN", "NAN"].contains (String.ofList fraction) ||
            (fraction.head?.any Text.isAsciiDigit && isFraction fraction)))
    else match Text.split ':' whole with
      | [part] => isNumeral Text.isAsciiDigit part && isFraction fraction
      | first :: parts =>
        isNumeral Text.isAsciiDigit first && parts.all isSixtieth &&
          fraction.all fun c => Text.isAsciiDigit c || c == '_'
      | [] => false
  | _ => false

def dropChar? (c : Char) : List Char → Option (List Char)
  | [] => none
  | x :: cs => if x = c then some cs else none

def offset? (cs : List Char) : Option (Option Int) :=
  match cs.dropWhile fun c => c == ' ' || c == '\t' with
  | [] => if cs.isEmpty then some none else none
  | ['Z'] => some (some 0)
  | sign :: cs => do
    let (hours, rest) ← if sign == '+' || sign == '-' then Iso.takeShort cs else none
    let minutes ← match rest with
      | [] => some 0
      | ':' :: rest => (Iso.takeNumber 2 rest).bind fun r => if r.2.isEmpty then some r.1 else none
      | _ => none
    return some (Numeral.applySign (sign == '-') (hours * 60 + minutes))

/-- What follows the mark between a date and a time: a letter or blanks. -/
def dropTimeMark? : List Char → Option (List Char)
  | [] => none
  | c :: cs =>
    if c == 'T' || c == 't' then some cs
    else if c == ' ' || c == '\t' then some (cs.dropWhile fun c => c == ' ' || c == '\t')
    else none

/-- The time after a date, with the offset. Digits past microseconds are cut. -/
def time? (cs : List Char) : Option (TimeOfDay × Option Int) := do
  let cs ← dropTimeMark? cs
  let (hour, cs) ← Iso.takeShort cs
  let (minute, cs) ← Iso.takeNumber 2 (← dropChar? ':' cs)
  let (second, cs) ← Iso.takeNumber 2 (← dropChar? ':' cs)
  let (digits, cs) := Iso.takeFraction cs
  return (⟨hour, minute, second, nanosecondsOf (digits.take 6)⟩, ← offset? cs)

/-- The date or date-time of a text, its parts in range or not. -/
def timestamp? (cs : List Char) : Option (Date × Option (TimeOfDay × Option Int)) := do
  let (year, rest) ← Iso.takeNumber 4 cs
  let (month, rest) ← Iso.takeShort (← dropChar? '-' rest)
  let (day, rest) ← Iso.takeShort (← dropChar? '-' rest)
  if rest.isEmpty then some (⟨year, month, day⟩, none)
  else some (⟨year, month, day⟩, some (← time? rest))

/-- Whether a text looks like a date or date-time. A date alone has all its digits. -/
def looksLikeTimestamp (cs : List Char) : Bool :=
  (timestamp? cs).any fun t => t.2.isSome || cs.length == 10

def withoutBreak (cs : List Char) : List Char :=
  if cs.getLast? = some '\n' then cs.dropLast else cs

def markWords : List String := ["!", "&", "*"]

/-- The kind that a text looks like, if its end does not count. -/
def kindOf (cs : List Char) : Tag :=
  let s := String.ofList cs
  if nullWords.contains s then .null
  else if trueWords.contains s || falseWords.contains s then .bool
  else if s = "<<" then .merge
  else if s = "=" then .default
  else if markWords.contains s then .unknown
  else if looksLikeFloat cs then .float
  else if looksLikeInt cs then .int
  else if looksLikeTimestamp cs then .timestamp
  else .text

/-- The kind that a text looks like. A newline alone is a text. -/
def tagOf (cs : List Char) : Tag := if cs = ['\n'] then .text else kindOf (withoutBreak cs)

end Resolve

end RunCharts.Yaml
