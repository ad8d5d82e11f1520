import RunCharts.Proofs.Json.Numerals
import RunCharts.Proofs.Json.Words

/-!
# The grammar of JSON

Which characters are a JSON text, said without the reader: one value with blanks around it. Strings
and numbers are predicates of their own; values with parts are derived, one constructor for each
rule, with a count of the brackets that may be open at once. The grammar knows no other limit, and
no words for numbers without a value.

An element is a value with blanks around it. So is a whole text.

An integer is found in any characters, a JSON text or not: it begins where a value may begin, and
does not go on.
-/

namespace RunCharts.Json.Grammar

open Reader (IsWhole)

def IsBlank (cs : List Char) : Prop := ∀ c ∈ cs, c ∈ [' ', '\t', '\n', '\r']

def IsHexDigit (c : Char) : Prop :=
  '0' ≤ c ∧ c ≤ '9' ∨ 'a' ≤ c ∧ c ≤ 'f' ∨ 'A' ≤ c ∧ c ≤ 'F'

inductive IsStringBody : List Char → Prop
  | nil : IsStringBody []
  | plain {c : Char} {cs : List Char} (hcontrol : ' ' ≤ c) (hquote : c ≠ '"')
      (hbackslash : c ≠ '\\') (h : IsStringBody cs) : IsStringBody (c :: cs)
  | short {c : Char} {cs : List Char} (hc : c ∈ ['"', '\\', '/', 'b', 'f', 'n', 'r', 't'])
      (h : IsStringBody cs) : IsStringBody ('\\' :: c :: cs)
  | unit {c₃ c₂ c₁ c₀ : Char} {cs : List Char} (hc : ∀ c ∈ [c₃, c₂, c₁, c₀], IsHexDigit c)
      (h : IsStringBody cs) : IsStringBody ('\\' :: 'u' :: c₃ :: c₂ :: c₁ :: c₀ :: cs)

def IsString (cs : List Char) : Prop := ∃ body, IsStringBody body ∧ cs = '"' :: (body ++ ['"'])

def AreDigits (cs : List Char) : Prop := cs ≠ [] ∧ ∀ c ∈ cs, Text.isAsciiDigit c = true

def IsSign (cs : List Char) : Prop := cs = [] ∨ cs = ['-']

def IsFraction (cs : List Char) : Prop := ∃ digits, AreDigits digits ∧ cs = '.' :: digits

def IsExponent (cs : List Char) : Prop :=
  ∃ mark sign digits, mark ∈ ['e', 'E'] ∧ sign ∈ [[], ['-'], ['+']] ∧ AreDigits digits ∧
    cs = mark :: (sign ++ digits)

def IsUnsigned (cs : List Char) : Prop :=
  ∃ whole fraction exponent, IsWhole whole ∧ (fraction = [] ∨ IsFraction fraction) ∧
    (exponent = [] ∨ IsExponent exponent) ∧ cs = whole ++ (fraction ++ exponent)

def IsNumber (cs : List Char) : Prop := ∃ sign v, IsSign sign ∧ IsUnsigned v ∧ cs = sign ++ v

inductive Kind where
  | value
  | element
  | elements
  | member
  | members

/-- What can be derived where `room` brackets may be opened. -/
inductive Derives : Nat → Kind → List Char → Prop
  | word {room : Nat} {cs : List Char}
      (h : cs ∈ ["null".toList, "true".toList, "false".toList]) : Derives room .value cs
  | number {room : Nat} {cs : List Char} (h : IsNumber cs) : Derives room .value cs
  | string {room : Nat} {cs : List Char} (h : IsString cs) : Derives room .value cs
  | emptyArray {room : Nat} {gap : List Char} (h : IsBlank gap) :
      Derives (room + 1) .value ('[' :: (gap ++ [']']))
  | array {room : Nat} {cs : List Char} (h : Derives room .elements cs) :
      Derives (room + 1) .value ('[' :: (cs ++ [']']))
  | emptyObject {room : Nat} {gap : List Char} (h : IsBlank gap) :
      Derives (room + 1) .value ('{' :: (gap ++ ['}']))
  | object {room : Nat} {cs : List Char} (h : Derives room .members cs) :
      Derives (room + 1) .value ('{' :: (cs ++ ['}']))
  | element {room : Nat} {before cs after : List Char} (hbefore : IsBlank before)
      (h : Derives room .value cs) (hafter : IsBlank after) :
      Derives room .element (before ++ (cs ++ after))
  | lastElement {room : Nat} {cs : List Char} (h : Derives room .element cs) :
      Derives room .elements cs
  | nextElement {room : Nat} {cs more : List Char} (h : Derives room .element cs)
      (hmore : Derives room .elements more) : Derives room .elements (cs ++ ',' :: more)
  | member {room : Nat} {before key after cs : List Char} (hbefore : IsBlank before)
      (hkey : IsString key) (hafter : IsBlank after) (h : Derives room .element cs) :
      Derives room .member (before ++ (key ++ (after ++ ':' :: cs)))
  | lastMember {room : Nat} {cs : List Char} (h : Derives room .member cs) :
      Derives room .members cs
  | nextMember {room : Nat} {cs more : List Char} (h : Derives room .member cs)
      (hmore : Derives room .members more) : Derives room .members (cs ++ ',' :: more)

/-- Whether characters are a JSON text that nests at most `room` deep. -/
def IsText (room : Nat) (cs : List Char) : Prop := Derives room .element cs

/-! ### Integers -/

def IsClosed (cs : List Char) : Prop :=
  ∀ rest, outside false (cs ++ rest) = outside false cs ++ outside false rest

def separators : List Char := ['[', '{', ',', ':']

/-- Characters behind which a value may begin: nothing or a separator, and then blanks. -/
inductive IsValuePlace : List Char → Prop
  | start : IsValuePlace []
  | separator {before : List Char} {c : Char} (h : IsClosed before) (hc : c ∈ separators) :
      IsValuePlace (before ++ [c])
  | blank {before gap : List Char} (h : IsValuePlace before) (hgap : IsBlank gap) :
      IsValuePlace (before ++ gap)

/-- Whether digits that end here go on, with more of them or as a float. -/
def GoesOn (cs : List Char) : Prop :=
  ∃ part rest, (AreDigits part ∨ IsFraction part ∨ IsExponent part) ∧ cs = part ++ rest

/-- Whether an integer of `n` digits stands among characters. -/
def HasInteger (n : Nat) (cs : List Char) : Prop :=
  ∃ before sign whole after, IsValuePlace before ∧ IsSign sign ∧ IsWhole whole ∧
    whole.length = n ∧ ¬GoesOn after ∧ cs = before ++ (sign ++ (whole ++ after))

end RunCharts.Json.Grammar
