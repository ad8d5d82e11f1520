import RunCharts.Decimal.Numeral
import RunCharts.Provider.Accessor
import RunCharts.Template

/-!
# Conditions

A condition joins subconditions by "and" or "or". One that reads `accessor operator number`, with
an accessor of the provider's form and an operator of order, gives a threshold for the chart, and
perhaps the key of the part it compares. All other subconditions are passed over.
-/

namespace RunCharts

structure Condition where
  label : Option String
  thresholds : List Binary64
  keys : List String
deriving DecidableEq

namespace Condition

def empty : Condition := ⟨none, [], []⟩

def subconditions : List Char → List (List Char)
  | [] => [[]]
  | ' ' :: '&' :: '&' :: ' ' :: cs => [] :: subconditions cs
  | ' ' :: '|' :: '|' :: ' ' :: cs => [] :: subconditions cs
  | c :: cs => Text.consFirst c (subconditions cs)

/-- How many parentheses are open after a piece. A closing one without a partner counts nothing in
the end. -/
def depthAfter (depth : Nat) (piece : List Char) : Nat :=
  depth + piece.count '(' - piece.count ')'

/-- Joins pieces to tokens: a piece belongs to the current token while a parenthesis is open. -/
def glue (depth : Nat) (token : List Char) : List (List Char) → List (List Char)
  | [] => [token]
  | piece :: pieces =>
    if 0 < depth then glue (depthAfter depth piece) (token ++ ' ' :: piece) pieces
    else token :: glue (depthAfter 0 piece) piece pieces

/-- The tokens of a subcondition: what stands between spaces outside parentheses. -/
def tokens (cs : List Char) : List (List Char) :=
  match Text.split ' ' cs with
  | [] => []
  | piece :: pieces => glue (depthAfter 0 piece) piece pieces

/-- The number of a threshold. Numbers with underscores are none. -/
def threshold? (token : List Char) : Option Binary64 :=
  if token.contains '_' then none
  else (Numeral.number? (String.ofList token)).filter Binary64.isFinite

def parse? (provider : Provider) (cs : List Char) : Option (Binary64 × Option String) :=
  match tokens cs with
  | [accessor, operator, literal] =>
    let a := Accessor.of (some provider) (String.ofList accessor)
    if a.isSupported && (operator.contains '<' || operator.contains '>') then
      (threshold? literal).map fun x => (x, a.key)
    else none
  | _ => none

def ofChars (provider : Provider) (cs : List Char) : Condition :=
  let found := (subconditions cs).filterMap (parse? provider)
  ⟨some (String.ofList cs), found.map Prod.fst, found.filterMap Prod.snd⟩

/-- What a chart takes from a condition. Without a text, or without a provider that is understood,
it takes nothing. -/
def read (args : List Argument) (provider : Option Provider) (text : Option String) : Condition :=
  match text, provider with
  | some text, some provider =>
    if text = "" || !provider.isSupported then empty
    else ofChars provider (Template.fill args text).toList
  | _, _ => empty

end Condition

end RunCharts
