import RunCharts.Decimal.Shortest

/-!
# Written numbers

How a binary64 number is laid out as text. The digits are those of `Decimal.shortest`; a
`NumberStyle` holds what is left to decide. A number with a leading digit at a moderate place is
written positionally and always shows a point; any other with a signed exponent.
-/

namespace RunCharts

structure NumberStyle where
  plainFrom : Int
  /-- The least exponent above `plainFrom` that is not. -/
  plainBelow : Int
  exponentWidth : Nat
  /-- The text of an infinity, without its sign. -/
  infinity : String
  nan : String
deriving DecidableEq, Repr

namespace NumberStyle

def digits (n : Nat) : List Char := Nat.toDigits 10 n

def zeros (n : Nat) : List Char := List.replicate n '0'

def exponentChars (style : NumberStyle) (e : Int) : List Char :=
  let ds := digits e.natAbs
  'e' :: (if e < 0 then '-' else '+') :: (zeros (style.exponentWidth - ds.length) ++ ds)

def positional (ds : List Char) (n : Int) : List Char :=
  if n ≤ 0 then '0' :: '.' :: (zeros (-n).toNat ++ ds)
  else if ds.length ≤ n.toNat then ds ++ zeros (n.toNat - ds.length) ++ ['.', '0']
  else ds.take n.toNat ++ '.' :: ds.drop n.toNat

def scientific (style : NumberStyle) (ds : List Char) (e : Int) : List Char :=
  (match ds with
    | d :: r@(_ :: _) => d :: '.' :: r
    | ds => ds) ++ style.exponentChars e

/-- A decimal without its sign: zeros at the end of the digits are dropped first. -/
def magnitude (style : NumberStyle) (d : Decimal) : List Char :=
  if d.digits = 0 then ['0', '.', '0']
  else
    let all := digits d.digits
    let ds := (all.reverse.dropWhile (· == '0')).reverse
    let e := d.exponent + all.length - 1
    if style.plainFrom ≤ e && e < style.plainBelow then positional ds (e + 1)
    else style.scientific ds e

def signed (negative : Bool) (cs : List Char) : List Char := if negative then '-' :: cs else cs

def chars (style : NumberStyle) : Binary64 → List Char
  | .finite s u h => signed s (style.magnitude (Decimal.shortest s u h))
  | .infinite s => signed s style.infinity.toList
  | .nan => style.nan.toList

def text (style : NumberStyle) (x : Binary64) : String := String.ofList (style.chars x)

end NumberStyle

end RunCharts
