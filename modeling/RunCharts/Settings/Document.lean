import RunCharts.Decimal.Numeral
import RunCharts.Document.Display
import RunCharts.Fault
import RunCharts.Settings.Basic
import RunCharts.Text.Blank
import RunCharts.Text.Split

/-!
# Settings from documents

Settings stand in four sections. An entry may be written as a text or as a value of a related kind.
All refused entries are reported, in the order of the sections; unknown entries are allowed inside
the sections, but no unknown sections. The level of the log may be overridden from outside.
-/

namespace RunCharts

namespace Settings

abbrev Checked (α : Type) := Except (List Issue) α

def issuesOf {α : Type} : Checked α → List Issue
  | .ok _ => []
  | .error issues => issues

/-- The text without its underscores, if it has any and they stand apart inside it. -/
def withoutUnderscores? (cs : List Char) : Option (List Char) :=
  let apart := (Text.split '_' cs).all fun part => !part.isEmpty
  if cs.contains '_' && apart then some (cs.filter (· != '_')) else none

def bareNumber? (cs : List Char) : Option Binary64 :=
  if cs.all fun c => c.toNat < 0x80 && c != '_' && !Text.isBlank c then
    Numeral.number? (String.ofList cs)
  else none

/-- The number of a text. Blanks and underscores do not go together. -/
def numberOfText? (cs : List Char) : Option Binary64 :=
  match bareNumber? (Text.trim Text.isBlank cs) with
  | some x => some x
  | none => (withoutUnderscores? cs).bind bareNumber?

/-- The text of a whole number without the zeros in front. Single underscores among these are
dropped with them; one zero is kept where nothing else is left in front of the end or of a point.
`last` is the character in front. -/
def dropZeros? (last : Char) : List Char → Option (List Char)
  | [] => some [last]
  | c :: cs =>
    if c = '0' then dropZeros? c cs
    else if c = '_' then if last = '_' then none else dropZeros? c cs
    else if c = '.' then some (last :: c :: cs)
    else if ('1' ≤ c && c ≤ '9') || c = '-' then some (c :: cs)
    else none

def withoutFraction (cs : List Char) : List Char :=
  match cs.dropWhile (· != '.') with
  | '.' :: zero :: zeros =>
    if (zero :: zeros).all (· == '0') then cs.takeWhile (· != '.') else cs
  | _ => cs

def shortWhole? (cs : List Char) : Option Int :=
  let (negative, digits) := match cs with
    | '-' :: cs => (true, cs)
    | cs => (false, cs)
  let isShort := digits.head? != some '0' || digits.length = 1
  if !digits.isEmpty && digits.all Text.isAsciiDigit && isShort then
    some (Numeral.applySign negative (Text.valueOfAscii digits))
  else none

def wholeOfText (cs : List Char) : Except IssueKind Int :=
  let cs := match Text.trim Text.isBlank cs with
    | '+' :: cs => cs
    | cs => cs
  let found? := match cs with
    | '0' :: rest => dropZeros? '0' rest
    | c :: _ => if ('1' ≤ c && c ≤ '9') || c = '-' then some cs else none
    | [] => none
  match found? with
  | none => .error .wholeText
  | some cs =>
    let cs := withoutFraction cs
    let cs := (withoutUnderscores? cs).getD cs
    if Numeral.digitLimit < cs.length then .error .wholeSize
    else match shortWhole? cs with
      | some n => .ok n
      | none => .error .wholeText

def falseWords : List String := ["0", "off", "f", "false", "n", "no"]

def trueWords : List String := ["1", "on", "t", "true", "y", "yes"]

/-- The text of a scalar that is read as one: bytes are a text in UTF-8. What is no text is refused
in the given way. -/
def textOf? (refusal : IssueKind) : Document → Except IssueKind (Option (List Char))
  | .scalar (.text s) => if Text.isWhole s then .ok (some s.toList) else .error .brokenText
  | .scalar (.bytes bs) =>
    match String.fromUTF8? ⟨bs.toArray⟩ with
    | some s => .ok (some s.toList)
    | none => .error refusal
  | _ => .ok none

def number (d : Document) : Except IssueKind Binary64 := do
  match ← textOf? .numberText d, d with
  | some cs, _ => match numberOfText? cs with
    | some x => .ok x
    | none => .error .numberText
  | none, .scalar (.bool b) => .ok (.ofInt b.toNat)
  | none, .scalar (.int n) =>
    if (Binary64.ofInt n).isFinite then .ok (.ofInt n) else .error .numberKind
  | none, .scalar (.float x) => .ok x
  | none, _ => .error .numberKind

def fitsWord (n : Int) : Bool := -Int.pow 2 63 ≤ n && n < Int.pow 2 63

/-- The integer that a float is, if it is nearer to zero than `2 ^ 63`. -/
def wordOfFloat? (x : Binary64) : Option Int := x.toInt?.filter fun n => n.natAbs < Nat.pow 2 63

def truthOfInt (n : Int) : Except IssueKind Bool :=
  if n = 0 then .ok false else if n = 1 then .ok true else .error .truthText

def truth (d : Document) : Except IssueKind Bool := do
  match ← textOf? .truthText d, d with
  | some cs, _ =>
    let word := String.ofList (cs.map Char.toLower)
    if falseWords.contains word then .ok false
    else if trueWords.contains word then .ok true
    else .error .truthText
  | none, .scalar (.bool b) => .ok b
  | none, .scalar (.int n) => if fitsWord n then truthOfInt n else .error .truthKind
  | none, .scalar (.float x) => match wordOfFloat? x with
    | some n => truthOfInt n
    | none => .error .truthKind
  | none, _ => .error .truthKind

def whole (d : Document) : Except IssueKind Int := do
  match ← textOf? .wholeText d, d with
  | some cs, _ => wholeOfText cs
  | none, .scalar (.bool b) => .ok b.toNat
  | none, .scalar (.int n) => .ok n
  | none, .scalar (.float x) =>
    if !x.isFinite then .error .notFinite
    else if x.toInt?.isNone then .error .fraction
    else match wordOfFloat? x with
      | some n => .ok n
      | none => .error .wholeSize
  | none, _ => .error .wholeKind

def natural (d : Document) : Except IssueKind Nat :=
  match whole d with
  | .ok n => if n < 0 then .error .belowLimit else .ok n.toNat
  | .error kind => .error kind

def word {α : Type} (ofName? : String → Option α) : Document → Except IssueKind α
  | .scalar (.text s) =>
    if !Text.isWhole s then .error .brokenText
    else match ofName? s with
      | some a => .ok a
      | none => .error .notAllowed
  | _ => .error .notAllowed

abbrev Headroom := { x : Binary64 // x.isAtLeast leastHeadroom = true }

def headroomOf (d : Document) : Except IssueKind Headroom :=
  match number d with
  | .ok x => if h : x.isAtLeast leastHeadroom = true then .ok ⟨x, h⟩ else .error .belowLimit
  | .error kind => .error kind

def section? (name : String) (entries : List (Scalar × Document)) :
    Checked (List (Scalar × Document)) :=
  if Document.hasKey name entries then
    match (Document.get name entries).entries? with
    | some inner => .ok inner
    | none => .error [⟨[.name name], .notMapping⟩]
  else .ok []

def entry {α : Type} (path : String × String) (read : Document → Except IssueKind α) (default : α)
    (inner : List (Scalar × Document)) : Checked α :=
  if Document.hasKey path.2 inner then
    (read (Document.get path.2 inner)).mapError fun kind =>
      [⟨[.name path.1, .name path.2], kind⟩]
  else .ok default

def chart (entries : List (Scalar × Document)) : Checked Headroom := do
  let inner ← section? "chart" entries
  entry ("chart", "headroom") headroomOf ⟨defaultHeadroom, isAtLeast_defaultHeadroom⟩ inner

def transform (entries : List (Scalar × Document)) : Checked Bool := do
  let inner ← section? "transform" entries
  entry ("transform", "strict_values") truth true inner

def outputs (entries : List (Scalar × Document)) : Checked (TableFormat × Nat) := do
  let inner ← section? "outputs" entries
  let format := entry ("outputs", "tables_format") (word TableFormat.ofName?) .csv inner
  let indent := entry ("outputs", "summary_indent") natural 2 inner
  match format, indent with
  | .ok f, .ok n => .ok (f, n)
  | f, n => .error (issuesOf f ++ issuesOf n)

def logging (entries : List (Scalar × Document)) : Checked Level := do
  let inner ← section? "logging" entries
  entry ("logging", "level") (word Level.ofName?) .info inner

def sections : List String := ["chart", "transform", "outputs", "logging"]

def longIntegerName : String := "<unprintable int object>"

def issueKey (key : Scalar) : IssueKey :=
  match key with
  | .text s => .name s
  | .bool b => .number b.toNat
  | .int n => if fitsWord n then .number n else .name (key.display.toOption.getD longIntegerName)
  | key => .name (key.display.toOption.getD longIntegerName)

/-- The text that names a section, if a key is one: bytes are a text in UTF-8. -/
def sectionName? : Scalar → Option String
  | .text s => some s
  | .bytes bs => String.fromUTF8? ⟨bs.toArray⟩
  | _ => none

/-- The issues with sections that do not exist. Bytes name a section only where its text does, too.
A broken text among the keys is the only issue of the file. -/
def unknownSections (entries : List (Scalar × Document)) : List Issue :=
  (entries.map fun e => e.1).filterMap fun key =>
    match sectionName? key with
    | none => some ⟨[issueKey key], .keyKind⟩
    | some name =>
      if sections.contains name && Document.hasKey name entries then none
      else some ⟨[issueKey key], .unknownKey⟩

def hasBrokenKey (entries : List (Scalar × Document)) : Bool :=
  entries.any fun e => match e.1 with
    | .text s => !Text.isWhole s
    | _ => false

def ofEntries (entries : List (Scalar × Document)) : Checked Settings :=
  if hasBrokenKey entries then .error [⟨[], .brokenText⟩]
  else match chart entries, transform entries, outputs entries, logging entries,
    unknownSections entries with
  | .ok headroom, .ok strict, .ok (format, indent), .ok level, [] =>
    .ok ⟨headroom.1, strict, format, indent, level, headroom.2⟩
  | c, t, o, l, unknown =>
    .error (issuesOf c ++ issuesOf t ++ issuesOf o ++ issuesOf l ++ unknown)

/-- The settings of a document. A document that is nothing chooses nothing. -/
def ofDocument (d : Document) : Checked Settings :=
  if !d.isSomething then .ok .default
  else match d.entries? with
    | some entries => ofEntries entries
    | none => .error [⟨[], .notMapping⟩]

/-- The upper case of the letters in the names of levels. The dotless `ı` has the upper case `I`;
no other character outside ASCII has one of these letters. -/
def upperLetter (c : Char) : Char := if c = 'ı' then 'I' else c.toUpper

/-- The settings with the level that a text from outside names. No text and an empty one name
none. -/
def overrideLevel (name : Option String) (s : Settings) : Checked Settings :=
  match name with
  | none => .ok s
  | some name =>
    if name = "" then .ok s
    else match Level.ofName? ((Text.strip name).map upperLetter) with
      | some level => .ok { s with level := level }
      | none => .error [⟨[.name "level"], .notAllowed⟩]

end Settings

end RunCharts
