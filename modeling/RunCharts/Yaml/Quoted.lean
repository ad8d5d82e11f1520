import RunCharts.Fault
import RunCharts.Yaml.Cursor

/-!
# Quoted scalars

A scalar between quotes. Line breaks inside are folded: a single one is a space, of more the first
is dropped, and blanks around them do not count. Between double quotes a backslash starts an escape.
An escape may name half of a surrogate pair; two halves in a row stay apart.
-/

namespace RunCharts.Yaml

abbrev malformed {α : Type} : Except Fault α := .error .yamlMalformed

def demand {α : Type} : Option α → Except Fault α
  | some a => .ok a
  | none => malformed

/-- The breaks of blank lines, and what follows with the blanks of its line dropped. A document mark
may not stand here. -/
def foldedBreaks? : Nat → List Char → Option (List Char × List Char)
  | 0, _ => none
  | fuel + 1, cs =>
    if isDocumentMark cs then none
    else match cs.dropWhile isBlank with
      | [] => some ([], [])
      | c :: rest =>
        if isBreak c then (foldedBreaks? fuel rest).map fun r => (breakChar c :: r.1, r.2)
        else some ([], c :: rest)

def fold (first : Char) (others : List Char) : List Char :=
  if breakChar first ≠ '\n' then breakChar first :: others
  else if others.isEmpty then [' '] else others

def escapes : List (Char × Char) :=
  [('0', '\x00'), ('a', '\x07'), ('b', '\x08'), ('t', '\t'), ('\t', '\t'), ('n', '\n'),
   ('v', '\x0b'), ('f', '\x0c'), ('r', '\r'), ('e', '\x1b'), (' ', ' '), ('"', '"'), ('\\', '\\'),
   ('/', '/'), ('N', '\x85'), ('_', '\xa0'), ('L', '\u2028'), ('P', '\u2029')]

def escapeWidth? (c : Char) : Option Nat :=
  if c = 'x' then some 2 else if c = 'u' then some 4 else if c = 'U' then some 8 else none

/-- The character with a code. Codes of more than 31 bits are refused for their size. -/
def charOfEscape (n : Nat) : Except Fault Char :=
  if Nat.pow 2 31 ≤ n then .error .escapeSize
  else if 0x110000 ≤ n then .error .escapeRange
  else .ok (Text.ofCode n)

/-- What an escape stands for, and what follows it. The text starts after the backslash. -/
def takeEscape (cs : List Char) : Except Fault (List Char × List Char) :=
  match cs with
  | [] => malformed
  | c :: rest =>
    if isBreak c then demand (foldedBreaks? (rest.length + 1) rest)
    else match escapes.find? fun e => e.1 = c with
      | some e => .ok ([e.2], rest)
      | none => do
        let width ← demand (escapeWidth? c)
        if rest.length < width then malformed
        let n ← demand (Text.hexNumber? 0 (rest.take width))
        return ([← charOfEscape n], rest.drop width)

def quotedText (quote : Char) : Nat → List Char → Except Fault (List Char × List Char)
  | 0, _ => malformed
  | _ + 1, [] => malformed
  | fuel + 1, c :: cs =>
    if c = quote then
      match quote, cs with
      | '\'', '\'' :: rest => (quotedText quote fuel rest).map fun r => ('\'' :: r.1, r.2)
      | _, _ => .ok ([], cs)
    else if c = '\\' ∧ quote = '"' then do
      let (text, rest) ← takeEscape cs
      let (more, rest) ← quotedText quote fuel rest
      return (text ++ more, rest)
    else if isBlank c || isBreak c then
      match (c :: cs).dropWhile isBlank with
      | [] => malformed
      | b :: rest => do
        let (text, rest) ← if isBreak b then
            (demand (foldedBreaks? (rest.length + 1) rest)).map fun r => (fold b r.1, r.2)
          else .ok ((c :: cs).takeWhile isBlank, b :: rest)
        let (more, rest) ← quotedText quote fuel rest
        return (text ++ more, rest)
    else (quotedText quote fuel cs).map fun r => (c :: r.1, r.2)

def takeQuoted (quote : Char) (c : Cursor) : Except Fault (List Char × Cursor) :=
  (quotedText quote c.rest.length c.next.rest).map fun r => (r.1, c.goTo r.2)

end RunCharts.Yaml
