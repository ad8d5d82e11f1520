import RunCharts.Text.Graphic
import RunCharts.Text.Hex
import RunCharts.Text.Surrogate

/-!
# Quoted texts

How a text is shown inside a message or a printed value: between quotes, with characters that are
not graphic written as escapes. Single quotes are taken unless the text holds a single quote and
no double one.
-/

namespace RunCharts.Text

def quoteMark (cs : List Char) : Char := if cs.contains '\'' && !cs.contains '"' then '"' else '\''

def quotedChar (quote c : Char) : List Char :=
  if c == quote || c == '\\' then ['\\', c]
  else if c == '\n' then ['\\', 'n']
  else if c == '\r' then ['\\', 'r']
  else if c == '\t' then ['\\', 't']
  else if isGraphic c then [c]
  else if c.toNat < 0x100 then '\\' :: 'x' :: hexDigits 2 c.toNat
  else if code c < 0x10000 then '\\' :: 'u' :: hexDigits 4 (code c)
  else '\\' :: 'U' :: hexDigits 8 c.toNat

def quoted (s : String) : String :=
  let q := quoteMark s.toList
  String.ofList (q :: s.toList.flatMap (quotedChar q) ++ [q])

/-- Bytes between quotes, after the letter that marks them. Only graphic characters of ASCII show as
themselves. -/
def quotedBytes (bytes : List UInt8) : String :=
  let cs := bytes.map fun b => Char.ofNat b.toNat
  let q := quoteMark cs
  let shown (c : Char) : List Char :=
    if c.toNat < 0x80 then quotedChar q c else '\\' :: 'x' :: hexDigits 2 c.toNat
  String.ofList ('b' :: q :: cs.flatMap shown ++ [q])

end RunCharts.Text
