import RunCharts.Document.Basic
import RunCharts.Fault
import RunCharts.Text.Base64
import RunCharts.Text.LowerCase
import RunCharts.Yaml.Resolve

/-!
# Scalars by their kinds

What a text stands for under a kind. A text has its kind from its looks or from a tag; the tag may
ask for more than the text gives, and then the fault says what is wrong. In numbers underscores do
not count.
-/

namespace RunCharts.Yaml.Scalars

def valueInBase (base : Nat) (ds : List Nat) : Nat := ds.foldl (fun n d => base * n + d) 0

/-- The value of a digit to a base: a decimal digit of any script, or a letter. -/
def digit? (base : Nat) (c : Char) : Option Nat :=
  ((Text.digitValue? c).or (Text.hexValue? c)).filter (· < base)

def baseMark? (base : Nat) : Option Char :=
  if base = 2 then some 'b' else if base = 8 then some 'o'
  else if base = 16 then some 'x' else none

/-- What follows a zero and the mark of a base, or the whole text where they are missing. -/
def dropBase (base : Nat) (cs : List Char) : List Char :=
  match cs with
  | zero :: mark :: rest =>
    if Text.digitValue? zero = some 0 ∧ baseMark? base = some mark.toLower then rest else cs
  | cs => cs

/-- The integer that a text denotes to a base: blanks at the ends, a sign, the mark of the base, and
digits. To the base ten their number is limited. -/
def numeral (base : Nat) (cs : List Char) : Except Fault Int :=
  let (negative, body) := Numeral.takeSign (Text.trim Text.isBlank cs)
  let body := dropBase base body
  let digits := (body.takeWhile fun c => (digit? base c).isSome).filterMap (digit? base)
  if base = 10 ∧ Numeral.digitLimit < digits.length then .error (.hugeInteger digits.length)
  else if digits.isEmpty ∨ digits.length ≠ body.length then
    .error (.notInteger base (String.ofList cs))
  else .ok (Numeral.applySign negative (valueInBase base digits))

def ofSixtieths (parts : List Int) : Int := parts.foldl (fun n part => 60 * n + part) 0

/-- The integer of a text without underscores and without its first sign. -/
def magnitude (cs : List Char) : Except Fault Int :=
  match cs with
  | [] => .error .emptyNumber
  | ['0'] => .ok 0
  | '0' :: 'b' :: ds => numeral 2 ds
  | '0' :: 'x' :: ds => numeral 16 ds
  | '0' :: _ => numeral 8 cs
  | _ =>
    if cs.contains ':' then ((Text.split ':' cs).mapM (numeral 10)).map ofSixtieths
    else numeral 10 cs

def int (cs : List Char) : Except Fault Int :=
  let (negative, body) := Numeral.takeSign (cs.filter (· != '_'))
  (magnitude body).map fun n => if negative then -n else n

def plainFloat (cs : List Char) : Except Fault Binary64 :=
  match Numeral.number? (String.ofList cs) with
  | some x => .ok x
  | none => .error (.notFloat (String.ofList cs))

def sumOfSixtieths (parts : List Binary64) : Except Fault Binary64 :=
  if (Binary64.ofInt (Int.pow 60 (parts.length - 1))).isFinite then
    .ok (parts.reverse.foldl (fun (sum, base) x => (sum.add (x.mul (.ofInt base)), base * 60))
      (Binary64.zero false, (1 : Int))).1
  else .error .floatRange

def negated (negative : Bool) (x : Binary64) : Binary64 :=
  if negative then x.mul (.ofInt (-1)) else x

/-- The word of the number without a value. All nodes with it hold the same key. -/
def nanWord : List Char := ['.', 'n', 'a', 'n']

def floatBody (cs : List Char) : Bool × List Char :=
  Numeral.takeSign (Text.toLower (cs.filter (· != '_')))

def float (cs : List Char) : Except Fault Binary64 :=
  if cs.all (· == '_') then .error .emptyNumber
  else
    let (negative, body) := floatBody cs
    if body = nanWord then .ok .nan
    else if body = ".inf".toList then .ok (.infinite negative)
    else if body.contains ':' then do
      let parts ← (Text.split ':' body).mapM plainFloat
      return negated negative (← sumOfSixtieths parts)
    else (plainFloat body).map (negated negative)

def moment (cs : List Char) : Except Fault Scalar :=
  match Resolve.timestamp? (Resolve.withoutBreak cs) with
  | none => .error .notTimestamp
  | some (date, none) =>
    match date.fault? with
    | some fault => .error (.calendar fault)
    | none => .ok (.date date)
  | some (date, some (time, offset)) =>
    let t : DateTime := ⟨date, time, offset⟩
    match t.fault? with
    | some fault => .error (.calendar fault)
    | none => .ok (.dateTime t)

def truth (cs : List Char) : Except Fault Bool :=
  let word := String.ofList (Text.toLower cs)
  if Resolve.trueWords.contains word then .ok true
  else if Resolve.falseWords.contains word then .ok false
  else .error (.notTruth word)

def binary (cs : List Char) : Except Fault (List UInt8) :=
  match if cs.all fun c => c.toNat < 0x80 then Text.base64? cs else none with
  | some bytes => .ok bytes
  | none => .error .yamlMalformed

def ofText (tag : Tag) (cs : List Char) : Except Fault Scalar :=
  match tag with
  | .null => .ok .null
  | .bool => (truth cs).map .bool
  | .int => (int cs).map .int
  | .float => (float cs).map .float
  | .timestamp => moment cs
  | .text => .ok (.text (String.ofList cs))
  | .binary => (binary cs).map .bytes
  | .merge | .default | .sequence | .mapping | .omap | .pairs | .set | .unknown =>
    .error .yamlMalformed

end RunCharts.Yaml.Scalars
