import RunCharts.Text.DecimalDigit
import RunCharts.Yaml.Cursor

/-!
# Block scalars

A literal or folded scalar: the indented lines after its header. The header may give the
indentation, and what becomes of the breaks at the end: one is kept by default, all or none on
demand.
-/

namespace RunCharts.Yaml

inductive Chomping where
  | clip
  | keep
  | strip
deriving DecidableEq, Repr

def Chomping.ofSign (c : Char) : Chomping := if c = '+' then keep else strip

structure BlockHeader where
  chomping : Chomping
  /-- The indentation beyond the surrounding one, where it is given. -/
  indent : Option Nat

def isChompingSign (c : Char) : Bool := c == '+' || c == '-'

/-- The header after its mark: a sign and a digit in either order. -/
def takeHeader? (c : Cursor) : Option (BlockHeader × Cursor) :=
  let digit (c : Char) : Option Nat := if '1' ≤ c && c ≤ '9' then some (c.toNat - 48) else none
  let found : Option (BlockHeader × Cursor) :=
    match c.peek with
    | none => some (⟨.clip, none⟩, c)
    | some x =>
      if isChompingSign x then
        match c.next.peek with
        | some y =>
          if Text.isAsciiDigit y then
            (digit y).map fun n => (⟨.ofSign x, some n⟩, c.next.next)
          else some (⟨.ofSign x, none⟩, c.next)
        | none => some (⟨.ofSign x, none⟩, c.next)
      else if Text.isAsciiDigit x then
        (digit x).map fun n => match c.next.peek with
          | some y =>
            if isChompingSign y then (⟨.ofSign y, some n⟩, c.next.next)
            else (⟨.clip, some n⟩, c.next)
          | none => (⟨.clip, some n⟩, c.next)
      else some (⟨.clip, none⟩, c)
  found.filter fun r => endsWord r.2.peek

def skipLineEnd? (c : Cursor) : Option Cursor :=
  let c := c.skipRun (· == ' ')
  let c := if c.peek == some '#' then c.skipRun fun x => !isBreak x else c
  if endsLine c.peek then some c.next else none

/-- The breaks of blank lines, with the greatest column that spaces reach. -/
def blankLines (fuel : Nat) (c : Cursor) : List Char × Nat × Cursor :=
  match fuel with
  | 0 => ([], 0, c)
  | fuel + 1 =>
    let c := c.skipRun (· == ' ')
    match c.peek with
    | some b =>
      if isBreak b then
        let (breaks, column, rest) := blankLines fuel c.next
        (breakChar b :: breaks, max c.column column, rest)
      else ([], c.column, c)
    | none => ([], c.column, c)

def skipIndent (indent : Nat) (c : Cursor) : Cursor :=
  c.skip (min (c.run (· == ' ')).length (indent - c.column))

/-- The breaks of lines without content, spaces beyond an indentation being content. -/
def indentedBreaks (indent : Nat) (fuel : Nat) (c : Cursor) : List Char × Cursor :=
  match fuel with
  | 0 => ([], c)
  | fuel + 1 =>
    let c := skipIndent indent c
    match c.peek with
    | some b =>
      if isBreak b then
        let (breaks, rest) := indentedBreaks indent fuel c.next
        (breakChar b :: breaks, rest)
      else ([], c)
    | none => ([], c)

/-- What is left of the breaks at the end: the break of the last line and those after it. -/
def chomp (chomping : Chomping) (lineBreak breaks : List Char) : List Char :=
  match chomping with
  | .clip => lineBreak
  | .keep => lineBreak ++ breaks
  | .strip => []

/-- The lines of a scalar, `breaks` being those in front of the next line. In a folded scalar a
break between two lines that do not start with a blank is a space. -/
def blockLines (folded : Bool) (chomping : Chomping) (indent : Nat) (fuel : Nat)
    (lineBreak breaks : List Char) (c : Cursor) : List Char × Cursor :=
  match fuel with
  | 0 => ([], c)
  | fuel + 1 =>
    if c.column ≠ indent ∨ c.peek = none then (chomp chomping lineBreak breaks, c)
    else
      let line := c.run fun x => !isBreak x
      let after := c.skip line.length
      let lineBreak := (after.peek.map breakChar).toList
      let (more, rest) := indentedBreaks indent (after.rest.length + 1) after.next
      let goesOn := rest.column = indent ∧ rest.peek ≠ none
      let folds := folded && lineBreak == ['\n'] && !c.peek.any isBlank && !rest.peek.any isBlank
      let joint := if !decide goesOn then []
        else if folds then if more.isEmpty then [' '] else []
        else lineBreak
      let (text, rest) := blockLines folded chomping indent fuel lineBreak more rest
      (breaks ++ line ++ joint ++ text, rest)

def takeBlock? (folded : Bool) (parent : Nat) (c : Cursor) : Option (List Char × Cursor) := do
  let (header, c) ← takeHeader? c.next
  let c ← skipLineEnd? c
  let least := max 1 parent
  let fuel := c.rest.length + 1
  let (indent, breaks, c) := match header.indent with
    | none =>
      let (breaks, column, c) := blankLines fuel c
      (max least column, breaks, c)
    | some n =>
      let indent := least + n - 1
      let (breaks, c) := indentedBreaks indent fuel c
      (indent, breaks, c)
  return blockLines folded header.chomping indent fuel [] breaks c

end RunCharts.Yaml
