import RunCharts.Text.DecimalDigit
import RunCharts.Text.Letter

/-!
# Lexemes of dates in words

A date in words falls into words, numbers and single marks. A point is part of a number between
its digits, and a comma between digits is a point as well; all other points and commas are marks.
Words and numbers that points join are one run until the run ends, and only then taken apart.
-/

namespace RunCharts

inductive Lexeme where
  | number (whole : List Nat) (fraction : Option (List Nat))
  | word (letters : List Char)
  /-- A character that is neither letter nor digit. Every blank is `' '`. -/
  | mark (c : Char)
  /-- Digits that have no decimal value, some or all of them. -/
  | ornate
  /-- A run with points that is no number and is not taken apart. -/
  | tangle
deriving DecidableEq, Repr

namespace Lexeme

open Text

structure Run where
  /-- The characters, the last one first. -/
  chars : List Char
  /-- The last character that is no point was a letter. -/
  inLetters : Bool
  pointed : Bool
  mixed : Bool
deriving DecidableEq, Repr

namespace Run

def start? (c : Char) : Option Run :=
  if isLetter c then some ⟨[c], true, false, false⟩
  else if isDigit c then some ⟨[c], false, false, false⟩
  else none

/-- Whether a run goes on with a character. Letters and digits follow each other after a point
only; a comma is a point after two digits or more. -/
def accepts (r : Run) (c : Char) : Bool :=
  let afterPoint := r.pointed && r.chars.head? == some '.'
  if isLetter c then r.inLetters || afterPoint
  else if isDigit c then !r.inLetters || afterPoint
  else c == '.' || (c == ',' && !r.inLetters && !r.pointed && 2 ≤ r.chars.length)

def push (r : Run) (c : Char) : Run where
  chars := c :: r.chars
  inLetters := if isLetter c then true else if isDigit c then false else r.inLetters
  pointed := r.pointed || c == '.' || c == ','
  mixed := r.mixed || r.inLetters

end Run

def isPoint (c : Char) : Bool := c == '.' || c == ','

def ofDigits (cs : List Char) : Lexeme :=
  match cs.mapM digitValue? with
  | some ds => number ds none
  | none => ornate

def ofPointed (cs : List Char) : Lexeme :=
  let whole := (cs.takeWhile fun c => !isPoint c).mapM digitValue?
  let fraction := ((cs.dropWhile fun c => !isPoint c).drop 1).mapM digitValue?
  match whole, fraction with
  | some whole, some fraction => number whole (some fraction)
  | _, _ => tangle

def parts (cs : List Char) : List Lexeme :=
  (cs.splitBy fun a b => !isPoint a && !isPoint b).map fun part =>
    match part with
    | c :: _ => if isPoint c then mark c else if isLetter c then word part else ofDigits part
    | [] => tangle

/-- The lexemes of a run. A run that ends with the text right after its only letter is not taken
apart. -/
def ofRun (r : Run) (mixed : Bool) : List Lexeme :=
  let cs := r.chars.reverse
  if !r.pointed then [if r.inLetters then word cs else ofDigits cs]
  else if mixed || 1 < cs.count '.' || r.chars.head?.any isPoint then parts cs
  else [if r.inLetters then tangle else ofPointed cs]

def scan : Option Run → List Char → List Lexeme
  | none, [] => []
  | some r, [] => ofRun r r.mixed
  | some r, c :: cs =>
    if r.accepts c then scan (some (r.push c)) cs
    else ofRun r (r.mixed || r.inLetters) ++ next c cs
  | none, c :: cs => next c cs
where
  next (c : Char) (cs : List Char) : List Lexeme :=
    match Run.start? c with
    | some r => scan (some r) cs
    | none => mark (if isStrippable c then ' ' else c) :: scan none cs

/-- The lexemes of a text. Null characters are passed over. -/
def ofText (cs : List Char) : List Lexeme := scan none (cs.filter (· != '\x00'))

end Lexeme

end RunCharts
