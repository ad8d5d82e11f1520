/-!
# Bytes in base 64

Four digits stand for three bytes. Characters that are neither digits nor padding do not count, and
padding ends the text once it completes a group of four. A group that is left unfinished is
refused.
-/

namespace RunCharts.Text

def base64Value? (c : Char) : Option Nat :=
  if 'A' ≤ c && c ≤ 'Z' then some (c.toNat - 'A'.toNat)
  else if 'a' ≤ c && c ≤ 'z' then some (c.toNat - 'a'.toNat + 26)
  else if '0' ≤ c && c ≤ '9' then some (c.toNat - '0'.toNat + 52)
  else if c = '+' then some 62
  else if c = '/' then some 63
  else none

/-- The bytes of a text. `group` holds the digits of the unfinished group, the last one first, and
`pads` counts the padding since the last digit. -/
def base64From? (group : List Nat) (pads : Nat) : List Char → Option (List UInt8)
  | [] => if group.isEmpty then some [] else none
  | c :: cs =>
    if c = '=' then
      if 2 ≤ group.length && 4 ≤ group.length + pads + 1 then some []
      else base64From? group (if 2 ≤ group.length then pads + 1 else pads) cs
    else match base64Value? c, group with
      | none, _ => base64From? group pads cs
      | some v, [] => base64From? [v] 0 cs
      | some v, [a] => (base64From? [v, a] 0 cs).map (UInt8.ofNat (4 * a + v / 16) :: ·)
      | some v, [b, a] =>
        (base64From? [v, b, a] 0 cs).map (UInt8.ofNat (16 * (b % 16) + v / 4) :: ·)
      | some v, d :: _ => (base64From? [] 0 cs).map (UInt8.ofNat (64 * (d % 4) + v) :: ·)

def base64? (cs : List Char) : Option (List UInt8) := base64From? [] 0 cs

end RunCharts.Text
