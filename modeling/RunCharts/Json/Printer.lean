import RunCharts.Decimal.Numeral
import RunCharts.Decimal.Style
import RunCharts.Json.Basic
import RunCharts.Text.Hex
import RunCharts.Text.Surrogate

/-!
# Written JSON

A tree is written in ASCII: every other character is an escape, above U+FFFF a pair of them, and
what stands for half of a pair is the escape of that half. Three
layouts differ in their separators: compact, spaced, and one entry per line with an indentation.
`Json.sorted` puts the keys in order before a report is written.
-/

namespace RunCharts

structure Layout where
  comma : List Char
  colon : List Char
  /-- Spaces per level where each entry has a line of its own. -/
  indent : Option Nat
deriving DecidableEq, Repr

namespace Layout

def compact : Layout := ⟨[','], [':'], none⟩

def spaced : Layout := ⟨[',', ' '], [':', ' '], none⟩

/-- One line per entry. No indentation means `spaced`. -/
def indented (width : Nat) : Layout :=
  if width = 0 then spaced else ⟨[','], [':', ' '], some width⟩

def lineBreak (layout : Layout) (level : Nat) : List Char :=
  match layout.indent with
  | none => []
  | some width => '\n' :: List.replicate (width * level) ' '

end Layout

namespace Json

/-- JSON numbers: positional between `10 ^ -4` and `10 ^ 16`. The words for numbers without a
value are not JSON. -/
def numberStyle : NumberStyle := ⟨-4, 16, 2, "Infinity", "NaN"⟩

def intChars (n : Int) : List Char := NumberStyle.signed (n < 0) (NumberStyle.digits n.natAbs)

def unitEscape (n : Nat) : List Char := '\\' :: 'u' :: Text.hexDigits 4 n

def charEscape (c : Char) : List Char :=
  if c == '"' || c == '\\' then ['\\', c]
  else if ' ' ≤ c && c < '\x7f' then [c]
  else if c == '\n' then ['\\', 'n']
  else if c == '\r' then ['\\', 'r']
  else if c == '\t' then ['\\', 't']
  else if c == '\x08' then ['\\', 'b']
  else if c == '\x0c' then ['\\', 'f']
  else
    let n := Text.code c
    if n < 0x10000 then unitEscape n
    else unitEscape (0xD800 + (n - 0x10000) / 0x400) ++
      unitEscape (0xDC00 + (n - 0x10000) % 0x400)

def stringChars (s : String) : List Char := '"' :: s.toList.flatMap charEscape ++ ['"']

mutual

def chars (layout : Layout) (level : Nat) : Json → List Char
  | null => ['n', 'u', 'l', 'l']
  | bool true => ['t', 'r', 'u', 'e']
  | bool false => ['f', 'a', 'l', 's', 'e']
  | int n => intChars n
  | float x => numberStyle.chars x
  | str s => stringChars s
  | arr [] => ['[', ']']
  | arr (item :: items) =>
    '[' :: layout.lineBreak (level + 1) ++ chars layout (level + 1) item ++
      itemChars layout (level + 1) items ++ layout.lineBreak level ++ [']']
  | obj [] => ['{', '}']
  | obj (f :: fields) =>
    '{' :: layout.lineBreak (level + 1) ++ fieldChars layout (level + 1) f ++
      fieldsChars layout (level + 1) fields ++ layout.lineBreak level ++ ['}']

def itemChars (layout : Layout) (level : Nat) : List Json → List Char
  | [] => []
  | item :: items =>
    layout.comma ++ layout.lineBreak level ++ chars layout level item ++
      itemChars layout level items

def fieldChars (layout : Layout) (level : Nat) : String × Json → List Char
  | (key, value) => stringChars key ++ layout.colon ++ chars layout level value

def fieldsChars (layout : Layout) (level : Nat) : List (String × Json) → List Char
  | [] => []
  | f :: fields =>
    layout.comma ++ layout.lineBreak level ++ fieldChars layout level f ++
      fieldsChars layout level fields

end

def text (layout : Layout) (j : Json) : String := String.ofList (j.chars layout 0)

/-- Fields in the order of their keys, by code points. -/
def sortFields (fields : List (String × Json)) : List (String × Json) :=
  fields.mergeSort fun a b => !Text.precedes b.1 a.1

mutual

def sorted : Json → Json
  | arr items => arr (sortedItems items)
  | obj fields => obj (sortFields (sortedFields fields))
  | null => null
  | bool b => bool b
  | int n => int n
  | float x => float x
  | str s => str s

def sortedItems : List Json → List Json
  | [] => []
  | item :: items => sorted item :: sortedItems items

def sortedFields : List (String × Json) → List (String × Json)
  | [] => []
  | (key, value) :: fields => (key, sorted value) :: sortedFields fields

end

mutual

def isWritable : Json → Bool
  | int n => Numeral.isWritable n
  | arr items => areWritable items
  | obj fields => areWritableFields fields
  | null | bool _ | float _ | str _ => true

def areWritable : List Json → Bool
  | [] => true
  | item :: items => isWritable item && areWritable items

def areWritableFields : List (String × Json) → Bool
  | [] => true
  | (_, value) :: fields => isWritable value && areWritableFields fields

end

/-- The text of a report file: keys in order, with an indentation. -/
def report (width : Nat) (j : Json) : String := j.sorted.text (.indented width)

end Json

end RunCharts
