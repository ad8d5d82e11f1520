import RunCharts.Yaml.Cursor

/-!
# Plain scalars

A scalar without quotes ends before a comment, a colon that is followed by a blank, and inside
brackets before a comma, a question mark or a bracket. It goes on over line breaks as long as lines
are indented; breaks are folded.
-/

namespace RunCharts.Yaml

def isFlowMark (c : Char) : Bool := c == ',' || c == '[' || c == ']' || c == '{' || c == '}'

def stopsPlain (inFlow : Bool) (c : Char) (following : Option Char) : Bool :=
  isBlank c || isBreak c || (inFlow && (isFlowMark c || c == '?')) ||
    (c == ':' && (endsToken following || (inFlow && following.any isFlowMark)))

def plainRun (inFlow : Bool) : List Char → List Char
  | [] => []
  | c :: cs => if stopsPlain inFlow c cs.head? then [] else c :: plainRun inFlow cs

/-- The breaks from here on, with what follows the spaces after the last one. None at a document
mark. -/
def plainBreaks? : Nat → Cursor → Option (List Char × Cursor)
  | 0, _ => none
  | fuel + 1, c =>
    if isDocumentMark c.rest then none
    else
      let c := c.skipRun (· == ' ')
      match c.peek with
      | some b =>
        if isBreak b then (plainBreaks? fuel c.next).map fun r => (breakChar b :: r.1, r.2)
        else some ([], c)
      | none => some ([], c)

/-- What stands between two parts of a plain scalar: the text that it stands for, and whether it
holds a break. Nothing if the scalar ends here. -/
structure PlainGap where
  text : List Char
  hasBreak : Bool
  cursor : Cursor

def plainGap (fuel : Nat) (c : Cursor) : PlainGap :=
  let spaces := c.run (· == ' ')
  let after := c.skipRun (· == ' ')
  match after.peek with
  | none => ⟨spaces, false, after⟩
  | some b =>
    if isBreak b then
      match plainBreaks? fuel after.next with
      | none => ⟨[], true, after.next⟩
      | some (others, c) =>
        ⟨if breakChar b ≠ '\n' then breakChar b :: others
          else if others.isEmpty then [' '] else others, true, c⟩
    else ⟨spaces, false, after⟩

structure PlainScalar where
  text : List Char
  endsAfterBreak : Bool
  cursor : Cursor

def plainFrom (inFlow : Bool) (indent : Nat) : Nat → Cursor → PlainScalar
  | 0, c => ⟨[], false, c⟩
  | fuel + 1, c =>
    let part := plainRun inFlow c.rest
    let gap := plainGap (fuel + 1) (c.skip part.length)
    let ends := gap.text.isEmpty || gap.cursor.peek == some '#' ||
      (!inFlow && gap.cursor.column < indent) || (plainRun inFlow gap.cursor.rest).isEmpty
    if ends then ⟨part, gap.hasBreak, gap.cursor⟩
    else
      let more := plainFrom inFlow indent fuel gap.cursor
      ⟨part ++ gap.text ++ more.text, more.endsAfterBreak, more.cursor⟩

def takePlain (size : Nat) (inFlow : Bool) (indent : Nat) (c : Cursor) : PlainScalar :=
  plainFrom inFlow indent (size + 1) c

end RunCharts.Yaml
