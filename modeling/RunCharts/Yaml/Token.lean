import RunCharts.Yaml.Block
import RunCharts.Yaml.Plain
import RunCharts.Yaml.Quoted

/-!
# Tokens

A YAML text as a sequence of tokens. Indentation becomes tokens of its own, which open and close
blocks. What may turn out to be a key of a mapping is remembered until a colon follows on the same
line; its tokens are then put in front of it.

Tags keep their handle, and directives their arguments; `RunCharts.Yaml.Graph` says what they mean.
A text that breaks the grammar has the tokens in front of the break, and the fault as the last one:
what is wrong with these tokens is found first.
-/

namespace RunCharts.Yaml

inductive Token where
  /-- The directive for the version of the language, with its major number. -/
  | version (major : Nat)
  | tagHandle (handle uri : List Char)
  | directive
  | documentStart
  | documentEnd
  | sequenceStart
  | mappingStart
  | blockEnd
  | openBracket
  | closeBracket
  | openBrace
  | closeBrace
  | comma
  | dash
  | key
  | value
  | alias (name : List Char)
  | anchor (name : List Char)
  | tag (handle : Option (List Char)) (suffix : List Char)
  | scalar (plain : Bool) (text : List Char)
  /-- The place where the grammar is broken. -/
  | broken (fault : Fault)
deriving DecidableEq

/-- Something that a colon can turn into a key. -/
structure PendingKey where
  depth : Nat
  /-- How many tokens stand in front of it. -/
  place : Nat
  /-- Whether it stands where only a key can stand. -/
  required : Bool
  index : Nat
  line : Nat
  column : Nat
deriving Repr

structure Lexer where
  cursor : Cursor
  size : Nat
  /-- The tokens so far, the last one first. -/
  tokens : List Token
  count : Nat
  depth : Nat
  /-- The columns of the open blocks, the innermost first. -/
  indents : List Nat
  /-- Whether a key of a block may start here. -/
  allowKey : Bool
  pending : List PendingKey

namespace Lexer

/-- A lexer at the start of a text. A byte order mark is passed over. -/
def start (cs : List Char) : Lexer :=
  let c := Cursor.start cs
  ⟨if c.peek == some '\uFEFF' then c.next else c, cs.length, [], 0, 0, [], true, []⟩

def inFlow (l : Lexer) : Bool := l.depth != 0

def contentColumn (l : Lexer) : Nat :=
  match l.indents with
  | [] => 0
  | column :: _ => column + 1

def push (t : Token) (l : Lexer) : Lexer := { l with tokens := t :: l.tokens, count := l.count + 1 }

def insertAt (place : Nat) (t : Token) (l : Lexer) : Lexer :=
  { l with tokens := l.tokens.insertIdx (l.count - place) t, count := l.count + 1 }

def advance (n : Nat) (l : Lexer) : Lexer := { l with cursor := l.cursor.skip n }

def allowing (b : Bool) (l : Lexer) : Lexer := { l with allowKey := b }

/-- Past spaces, comments and breaks. Outside brackets a key may start on a new line. -/
def skipGaps : Nat → Lexer → Lexer
  | 0, l => l
  | fuel + 1, l =>
    let c := l.cursor.skipRun (· == ' ')
    let c := if c.peek == some '#' then c.skipRun fun x => !isBreak x else c
    match c.peek with
    | some b =>
      if isBreak b then
        skipGaps fuel { l with cursor := c.next, allowKey := l.allowKey || !l.inFlow }
      else { l with cursor := c }
    | none => { l with cursor := c }

/-- The greatest distance between the start of a key and its colon. -/
def keyReach : Nat := 1024

def isStale (l : Lexer) (k : PendingKey) : Bool :=
  k.line != l.cursor.line || keyReach < l.cursor.index - k.index

/-- Drops the pending keys of a class. A required one may not be dropped. -/
def dropPending (p : PendingKey → Bool) (l : Lexer) : Except Fault Lexer :=
  if l.pending.any fun k => p k && k.required then malformed
  else .ok { l with pending := l.pending.filter fun k => !p k }

def dropCurrent (l : Lexer) : Except Fault Lexer := l.dropPending fun k => k.depth == l.depth

def remember (l : Lexer) : Except Fault Lexer :=
  if !l.allowKey then .ok l
  else (l.dropCurrent).map fun l' =>
    let required := !l.inFlow && l.indents.head? == some l.cursor.column
    { l' with pending := ⟨l.depth, l.count, required, l.cursor.index, l.cursor.line,
        l.cursor.column⟩ :: l'.pending }

def closeBlocks (keep : Nat → Bool) : List Nat → Lexer → Lexer
  | [], l => { l with indents := [] }
  | column :: columns, l =>
    if keep column then { l with indents := column :: columns }
    else closeBlocks keep columns (l.push .blockEnd)

def unwind (l : Lexer) : Lexer :=
  if l.inFlow then l else closeBlocks (· ≤ l.cursor.column) l.indents l

def unwindAll (l : Lexer) : Lexer :=
  if l.inFlow then l else closeBlocks (fun _ => false) l.indents l

def opensBlock (l : Lexer) (column : Nat) : Bool := l.indents.head?.all (· < column)

def openBlockAt (place column : Nat) (t : Token) (l : Lexer) : Lexer :=
  if l.opensBlock column then { l.insertAt place t with indents := column :: l.indents } else l

def openBlock (t : Token) (l : Lexer) : Lexer := l.openBlockAt l.count l.cursor.column t

def flowToken (t : Token) (l : Lexer) : Lexer := (l.advance 1).push t

def openFlow (t : Token) (l : Lexer) : Except Fault Lexer :=
  (l.remember).map fun l => { l with depth := l.depth + 1, allowKey := true }.flowToken t

def closeFlow (t : Token) (l : Lexer) : Except Fault Lexer :=
  if l.inFlow then
    (l.dropCurrent).map fun l => { l with depth := l.depth - 1, allowKey := false }.flowToken t
  else malformed

def comma (l : Lexer) : Except Fault Lexer :=
  (l.allowing true).dropCurrent.map (flowToken .comma)

/-- The dash of a sequence. Between brackets it is a token, too, which no node starts with. -/
def dash (l : Lexer) : Except Fault Lexer :=
  if !l.inFlow && !l.allowKey then malformed
  else
    let l := if l.inFlow then l else l.openBlock .sequenceStart
    (l.allowing true).dropCurrent.map (flowToken .dash)

def key (l : Lexer) : Except Fault Lexer :=
  if !l.inFlow && !l.allowKey then malformed
  else
    let l := if l.inFlow then l else l.openBlock .mappingStart
    (l.allowing !l.inFlow).dropCurrent.map (flowToken .key)

def value (l : Lexer) : Except Fault Lexer :=
  match l.pending.find? fun k => k.depth == l.depth with
  | some k =>
    let l := { l with pending := l.pending.filter fun k => k.depth != l.depth }
    let l := l.insertAt k.place .key
    let l := if l.inFlow then l else l.openBlockAt k.place k.column .mappingStart
    .ok ((l.allowing false).flowToken .value)
  | none =>
    if !l.inFlow && !l.allowKey then malformed
    else
      let l := if l.inFlow then l else l.openBlock .mappingStart
      (l.allowing !l.inFlow).dropCurrent.map (flowToken .value)

def isNameChar (c : Char) : Bool := c.isAlphanum || c == '-' || c == '_'

def endsAnchor (c : Option Char) : Bool :=
  endsToken c || c.any fun c => "?:,]\x7d%@\x60".toList.contains c

def anchor (t : List Char → Token) (l : Lexer) : Except Fault Lexer := do
  let l ← l.remember
  let name := l.cursor.next.run isNameChar
  let after := l.cursor.skip (name.length + 1)
  if name.isEmpty || !endsAnchor after.peek then malformed
  return { (l.allowing false).push (t name) with cursor := after }

def isUriChar (c : Char) : Bool :=
  c.isAlphanum || "-;/?:@&=+$,_.!~*'()[]%".toList.contains c

def takeEscapedBytes? : Nat → List Char → Option (List UInt8 × List Char)
  | 0, cs => some ([], cs)
  | fuel + 1, cs =>
    match cs with
    | '%' :: high :: low :: rest => do
      let n ← Text.hexNumber? 0 [high, low]
      let (bytes, rest) ← takeEscapedBytes? fuel rest
      return (UInt8.ofNat n :: bytes, rest)
    | '%' :: _ => none
    | _ => some ([], cs)

/-- The text of a part of a tag. A run of escapes is a text in UTF-8. -/
def unescaped? : Nat → List Char → Option (List Char)
  | 0, _ => none
  | _ + 1, [] => some []
  | fuel + 1, c :: cs =>
    if c = '%' then do
      let (bytes, rest) ← takeEscapedBytes? (cs.length + 1) (c :: cs)
      let text ← String.fromUTF8? ⟨bytes.toArray⟩
      let more ← unescaped? fuel rest
      return text.toList ++ more
    else (unescaped? fuel cs).map (c :: ·)

def takeUri (c : Cursor) : Except Fault (List Char × Cursor) := do
  let uri := c.run isUriChar
  if uri.isEmpty then malformed
  return (← demand (unescaped? (uri.length + 1) uri), c.skip uri.length)

/-- A tag handle: an exclamation mark, or a name between two. -/
def takeHandle (c : Cursor) : Except Fault (List Char × Cursor) :=
  if c.peek ≠ some '!' then malformed
  else
    let name := c.next.run isNameChar
    let after := c.skip (name.length + 1)
    if after.peek = some '!' then .ok ('!' :: name ++ ['!'], after.next)
    else if name.isEmpty && after.peek = some ' ' then .ok (['!'], after)
    else malformed

def takeTag (c : Cursor) : Except Fault ((Option (List Char) × List Char) × Cursor) :=
  if c.next.peek = some '<' then do
    let (uri, c) ← takeUri (c.skip 2)
    if c.peek = some '>' then return ((none, uri), c.next) else malformed
  else if endsToken c.next.peek then .ok ((none, ['!']), c.next)
  else do
    let word := c.next.run fun x => !endsWord (some x)
    let (handle, c) ← if word.contains '!' then takeHandle c else .ok (['!'], c.next)
    let (suffix, c) ← takeUri c
    return ((some handle, suffix), c)

def tag (l : Lexer) : Except Fault Lexer := do
  let l ← l.remember
  let ((handle, suffix), after) ← takeTag l.cursor
  if !endsWord after.peek then malformed
  return { (l.allowing false).push (.tag handle suffix) with cursor := after }

def takeVersionNumber (c : Cursor) : Except Fault (Nat × Cursor) :=
  let digits := c.run Char.isDigit
  if digits.isEmpty then malformed
  else if Numeral.digitLimit < digits.length then .error (.hugeInteger digits.length)
  else .ok (Text.valueOfAscii digits, c.skip digits.length)

def takeVersion (c : Cursor) : Except Fault (Token × Cursor) := do
  let (major, c) ← takeVersionNumber (c.skipRun (· == ' '))
  if c.peek ≠ some '.' then malformed
  let (_, c) ← takeVersionNumber c.next
  if !endsWord c.peek then malformed
  return (.version major, c)

def takeTagHandle (c : Cursor) : Except Fault (Token × Cursor) := do
  let (handle, c) ← takeHandle (c.skipRun (· == ' '))
  if c.peek ≠ some ' ' then malformed
  let (uri, c) ← takeUri (c.skipRun (· == ' '))
  if !endsWord c.peek then malformed
  return (.tagHandle handle uri, c)

def directive (l : Lexer) : Except Fault Lexer := do
  let l ← l.unwindAll.dropCurrent
  let name := l.cursor.next.run isNameChar
  let c := l.cursor.skip (name.length + 1)
  if name.isEmpty || !endsWord c.peek then malformed
  let (t, c) ← if name = "YAML".toList then takeVersion c
    else if name = "TAG".toList then takeTagHandle c
    else .ok (.directive, c.skipRun fun x => !isBreak x)
  let c ← demand (skipLineEnd? c)
  return { (l.allowing false).push t with cursor := c }

def documentMark (t : Token) (l : Lexer) : Except Fault Lexer :=
  (l.unwindAll.dropCurrent).map fun l => ((l.allowing false).advance 3).push t

def blockScalar (folded : Bool) (l : Lexer) : Except Fault Lexer := do
  let l ← (l.allowing true).dropCurrent
  let (text, after) ← demand (takeBlock? folded l.contentColumn l.cursor)
  return { l.push (.scalar false text) with cursor := after }

def quotedScalar (quote : Char) (l : Lexer) : Except Fault Lexer := do
  let l ← l.remember
  let (text, after) ← takeQuoted quote l.cursor
  return { (l.allowing false).push (.scalar false text) with cursor := after }

def plainScalar (l : Lexer) : Except Fault Lexer := do
  let l ← l.remember
  let s := takePlain l.size l.inFlow l.contentColumn l.cursor
  return { (l.allowing s.endsAfterBreak).push (.scalar true s.text) with cursor := s.cursor }

/-- The characters that no plain scalar starts with, or only before another character. -/
def indicators : List Char := "-?:,[]\x7b\x7d#&*!|>'\"%@\x60".toList

def startsPlain (inFlow : Bool) (c : Char) (following : Option Char) : Bool :=
  !(isBlank c || isBreak c || indicators.contains c) ||
    (!endsToken following && (c == '-' || (!inFlow && (c == '?' || c == ':'))))

def token (c : Char) (l : Lexer) : Except Fault Lexer :=
  let following := l.cursor.peekAt 1
  let atMargin := l.cursor.column == 0
  let stands := endsToken following
  if c == '%' && atMargin then l.directive
  else if c == '-' && atMargin && isDocumentMark l.cursor.rest then l.documentMark .documentStart
  else if c == '.' && atMargin && isDocumentMark l.cursor.rest then l.documentMark .documentEnd
  else if c == '[' then l.openFlow .openBracket
  else if c == '{' then l.openFlow .openBrace
  else if c == ']' then l.closeFlow .closeBracket
  else if c == '}' then l.closeFlow .closeBrace
  else if c == ',' then l.comma
  else if c == '-' && stands then l.dash
  else if c == '?' && (l.inFlow || stands) then l.key
  else if c == ':' && (l.inFlow || stands) then l.value
  else if c == '*' then l.anchor .alias
  else if c == '&' then l.anchor .anchor
  else if c == '!' then l.tag
  else if c == '|' && !l.inFlow then l.blockScalar false
  else if c == '>' && !l.inFlow then l.blockScalar true
  else if c == '\'' || c == '"' then l.quotedScalar c
  else if startsPlain l.inFlow c following then l.plainScalar
  else malformed

def step (l : Lexer) : Except Fault (Bool × Lexer) := do
  let l := skipGaps (l.size + 1) l
  let l ← l.dropPending l.isStale
  let l := l.unwind
  match l.cursor.peek with
  | none => return (true, ← l.unwindAll.dropCurrent)
  | some c => return (false, ← l.token c)

/-- The tokens so far that no pending key can come in front of. -/
def settled (l : Lexer) : List Token :=
  let places := (l.pending.filter fun k => !l.isStale k).map PendingKey.place
  l.tokens.reverse.take (places.min?.getD l.count)

/-- The tokens from here to the end. Every round passes a character at least. -/
def tokensFrom : Nat → Lexer → List Token
  | 0, l => l.settled ++ [.broken .yamlMalformed]
  | fuel + 1, l =>
    match l.step with
    | .error fault => l.settled ++ [.broken fault]
    | .ok (true, l) => l.tokens.reverse
    | .ok (false, l) => tokensFrom fuel l

end Lexer

def Token.ofChars (cs : List Char) : List Token :=
  Lexer.tokensFrom (cs.length + 1) (Lexer.start cs)

end RunCharts.Yaml
