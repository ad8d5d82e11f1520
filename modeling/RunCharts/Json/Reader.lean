import RunCharts.Decimal.Numeral
import RunCharts.Entries
import RunCharts.Json.Basic
import RunCharts.Text.Hex
import RunCharts.Text.Surrogate

/-!
# Reading JSON

The reader takes one value between blanks and refuses everything else: leading zeros, raw control
characters in strings, commas before a closing bracket. Three texts of the grammar it refuses as
well, by limits: integers of too many digits, and brackets that nest too deeply. The words for
infinity and NaN are read where the caller allows them and are an error of their own where not.

Each call of the mutual block passes on less fuel. Twice the length of the text is enough: a
bracket takes two calls, and so does a comma.
-/

namespace RunCharts

namespace Json

inductive ReadError where
  | malformed
  /-- A word for a number without a value, met before any break of the grammar. -/
  | constant (name : String)
  | hugeInteger (digits : Nat)
  | tooDeep
deriving DecidableEq, Repr

/-- How the words `NaN`, `Infinity` and `-Infinity` are taken. -/
inductive Constants where
  | allowed
  | refused
deriving DecidableEq, Repr

namespace Reader

/-- How many brackets may be open at once, if the reader is called from an almost empty stack. Every
call around it takes one of them, which is left out. -/
def depthLimit : Nat := 994

abbrev Result (α : Type) := Except ReadError (α × List Char)

def isGap (c : Char) : Bool := c == ' ' || c == '\t' || c == '\n' || c == '\r'

def skipGap (cs : List Char) : List Char := cs.dropWhile isGap

def shortEscape? (c : Char) : Option Char :=
  if c == '"' || c == '\\' || c == '/' then some c
  else if c == 'n' then some '\n'
  else if c == 't' then some '\t'
  else if c == 'r' then some '\r'
  else if c == 'b' then some '\x08'
  else if c == 'f' then some '\x0c'
  else none

def stringUnits? : List Char → Option (List Nat × List Char)
  | [] => none
  | '"' :: cs => some ([], cs)
  | '\\' :: 'u' :: c₃ :: c₂ :: c₁ :: c₀ :: cs =>
    match Text.hexNumber? 0 [c₃, c₂, c₁, c₀], stringUnits? cs with
    | some n, some (units, rest) => some (n :: units, rest)
    | _, _ => none
  | '\\' :: c :: cs =>
    match shortEscape? c, stringUnits? cs with
    | some d, some (units, rest) => some (d.toNat :: units, rest)
    | _, _ => none
  | c :: cs =>
    if c < ' ' || c == '\\' then none
    else (stringUnits? cs).map fun r => (c.toNat :: r.1, r.2)

def isLeading (n : Nat) : Bool := 0xD800 ≤ n && n < 0xDC00

def isTrailing (n : Nat) : Bool := 0xDC00 ≤ n && n < 0xE000

def joinPairs : List Nat → List Char
  | [] => []
  | m :: n :: ns =>
    if isLeading m && isTrailing n then
      Text.ofCode (0x10000 + (m - 0xD800) * 0x400 + (n - 0xDC00)) :: joinPairs ns
    else Text.ofCode m :: joinPairs (n :: ns)
  | [n] => [Text.ofCode n]

def string (cs : List Char) : Result String :=
  match stringUnits? cs with
  | some (units, rest) => .ok (String.ofList (joinPairs units), rest)
  | none => .error .malformed

def takeDigits (cs : List Char) : List Char × List Char :=
  (cs.takeWhile Text.isAsciiDigit, cs.dropWhile Text.isAsciiDigit)

/-- The digits before the point: a zero alone, or digits that do not start with one. -/
def takeWhole : List Char → List Char × List Char
  | '0' :: cs => (['0'], cs)
  | cs => takeDigits cs

def takeFraction (cs : List Char) : List Char × List Char :=
  match cs with
  | '.' :: rest => if (takeDigits rest).1.isEmpty then ([], cs) else takeDigits rest
  | _ => ([], cs)

def takeExponent (cs : List Char) : Option Int × List Char :=
  match cs with
  | [] => (none, cs)
  | c :: rest =>
    if c == 'e' || c == 'E' then
      let (negative, rest) := Numeral.takeSign rest
      let (digits, rest) := takeDigits rest
      if digits.isEmpty then (none, cs)
      else (some (Numeral.applySign negative (Text.valueOfAscii digits)), rest)
    else (none, cs)

/-- A number without its sign. A point or an exponent makes it a float. -/
def unsigned (negative : Bool) (cs : List Char) : Result Json :=
  let (whole, rest) := takeWhole cs
  let (fraction, rest) := takeFraction rest
  let (exponent, rest) := takeExponent rest
  if whole.isEmpty then .error .malformed
  else if fraction.isEmpty && exponent.isNone then
    if Numeral.digitLimit < whole.length then .error (.hugeInteger whole.length)
    else .ok (.int (Numeral.applySign negative (Text.valueOfAscii whole)), rest)
  else
    let d : Decimal :=
      ⟨negative, Text.valueOfAscii (whole ++ fraction), exponent.getD 0 - fraction.length⟩
    .ok (.float d.toBinary64, rest)

def number : List Char → Result Json
  | '-' :: cs => unsigned true cs
  | cs => unsigned false cs

def dropWord? (word : List Char) (cs : List Char) : Option (List Char) :=
  if word.isPrefixOf cs then some (cs.drop word.length) else none

def words : List (String × Json) :=
  [("null", .null), ("true", .bool true), ("false", .bool false)]

def constantWords : List (String × Binary64) :=
  [("NaN", .nan), ("Infinity", .infinite false), ("-Infinity", .infinite true)]

def findWord? {α : Type} (table : List (String × α)) (cs : List Char) :
    Option ((String × α) × List Char) :=
  table.findSome? fun entry => (dropWord? entry.1.toList cs).map fun rest => (entry, rest)

def atom (constants : Constants) (cs : List Char) : Result Json :=
  match findWord? words cs with
  | some ((_, j), rest) => .ok (j, rest)
  | none =>
    match findWord? constantWords cs with
    | some ((name, x), rest) =>
      match constants with
      | .allowed => .ok (.float x, rest)
      | .refused => .error (.constant name)
    | none => number cs

mutual

/-- One value. `room` is how many brackets may still be opened. -/
def value (constants : Constants) : Nat → Nat → List Char → Result Json
  | 0, _, _ => .error .malformed
  | fuel + 1, room, cs =>
    match cs with
    | '"' :: cs => (string cs).map fun r => (.str r.1, r.2)
    | '[' :: cs =>
      match room, skipGap cs with
      | 0, _ => .error .tooDeep
      | _ + 1, ']' :: rest => .ok (.arr [], rest)
      | room + 1, cs => (items constants fuel room cs).map fun r => (.arr r.1, r.2)
    | '{' :: cs =>
      match room, skipGap cs with
      | 0, _ => .error .tooDeep
      | _ + 1, '}' :: rest => .ok (.obj [], rest)
      | room + 1, cs => (fields constants fuel room cs).map fun r => (.obj (upsertAll r.1), r.2)
    | cs => atom constants cs

/-- The items of an array up to its bracket, one at least. -/
def items (constants : Constants) : Nat → Nat → List Char → Result (List Json)
  | 0, _, _ => .error .malformed
  | fuel + 1, room, cs =>
    match value constants fuel room cs with
    | .error e => .error e
    | .ok (item, rest) =>
      match skipGap rest with
      | ',' :: rest =>
        (items constants fuel room (skipGap rest)).map fun r => (item :: r.1, r.2)
      | ']' :: rest => .ok ([item], rest)
      | _ => .error .malformed

/-- The fields of an object up to its bracket, one at least. -/
def fields (constants : Constants) : Nat → Nat → List Char → Result (List (String × Json))
  | 0, _, _ => .error .malformed
  | fuel + 1, room, cs =>
    match cs with
    | '"' :: cs =>
      match string cs with
      | .error e => .error e
      | .ok (key, rest) =>
        match skipGap rest with
        | ':' :: rest =>
          match value constants fuel room (skipGap rest) with
          | .error e => .error e
          | .ok (j, rest) =>
            match skipGap rest with
            | ',' :: rest =>
              (fields constants fuel room (skipGap rest)).map fun r => ((key, j) :: r.1, r.2)
            | '}' :: rest => .ok ([(key, j)], rest)
            | _ => .error .malformed
        | _ => .error .malformed
    | _ => .error .malformed

end

end Reader

def read (constants : Constants) (s : String) : Except ReadError Json :=
  let cs := Reader.skipGap s.toList
  match Reader.value constants (2 * cs.length + 1) Reader.depthLimit cs with
  | .error e => .error e
  | .ok (j, rest) => if (Reader.skipGap rest).isEmpty then .ok j else .error .malformed

end Json

end RunCharts
