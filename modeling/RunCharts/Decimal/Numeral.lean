import RunCharts.Decimal.Basic
import RunCharts.Text.Blank
import RunCharts.Text.DecimalDigit

/-!
# Numerals in texts

Whole numbers and numbers as they stand in conditions, counts and settings: blanks around, a sign,
decimal digits of any script, single underscores between digits. A number may have a point, an
exponent, or be one of the words for infinity and NaN.
-/

namespace RunCharts.Numeral

open Text

/-- Integers of more decimal digits than this are neither read nor written. -/
def digitLimit : Nat := 4300

@[irreducible] def isWritable (n : Int) : Bool := n.natAbs < Nat.pow 10 digitLimit

/-- The digits in front, and what follows them. An underscore between two digits is passed over;
`afterDigit` says whether one may come next. -/
def takeDigits (afterDigit : Bool) : List Char → List Nat × List Char
  | [] => ([], [])
  | c :: cs =>
    match digitValue? c with
    | some d => (d :: (takeDigits true cs).1, (takeDigits true cs).2)
    | none =>
      if c == '_' && afterDigit && cs.head?.any isDecimalDigit then takeDigits false cs
      else ([], c :: cs)

def takeSign : List Char → Bool × List Char
  | '-' :: cs => (true, cs)
  | '+' :: cs => (false, cs)
  | cs => (false, cs)

def applySign (negative : Bool) (n : Nat) : Int := if negative then -n else n

def whole? (s : String) : Option Int :=
  let (negative, cs) := takeSign (trim isBlank s.toList)
  match takeDigits false cs with
  | (d :: ds, []) =>
    if (d :: ds).length ≤ digitLimit then some (applySign negative (valueOfDigits (d :: ds)))
    else none
  | _ => none

def exponent? : List Char → Option Int
  | [] => some 0
  | c :: cs =>
    if c == 'e' || c == 'E' then
      let (negative, cs) := takeSign cs
      match takeDigits false cs with
      | (d :: ds, []) => some (applySign negative (valueOfDigits (d :: ds)))
      | _ => none
    else none

/-- An unsigned decimal: digits, a point and digits, with digits on one side at least. -/
def decimal? (negative : Bool) (cs : List Char) : Option Decimal :=
  let (whole, rest) := takeDigits false cs
  let (fraction, rest) := match rest with
    | '.' :: rest => takeDigits false rest
    | rest => ([], rest)
  if whole.isEmpty && fraction.isEmpty then none
  else (exponent? rest).map fun e =>
    ⟨negative, valueOfDigits (whole ++ fraction), e - fraction.length⟩

def isWord (word : String) (cs : List Char) : Bool := cs.map Char.toLower == word.toList

/-- The number that a text denotes, infinities and NaN included. -/
def number? (s : String) : Option Binary64 :=
  let (negative, cs) := takeSign (trim isBlank s.toList)
  if isWord "inf" cs || isWord "infinity" cs then some (.infinite negative)
  else if isWord "nan" cs then some .nan
  else (decimal? negative cs).map Decimal.toBinary64

end RunCharts.Numeral
