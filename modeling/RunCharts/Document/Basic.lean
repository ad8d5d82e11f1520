import RunCharts.Calendar.DateTime
import RunCharts.Json.Basic

/-!
# Documents

What a run file or a settings file holds: scalars, lists and mappings. A JSON file has text keys
only; a YAML file has keys of any scalar kind, and bytes, dates, pairs and sets besides. Numbers
that are equal are one key, whatever their kind, and so are date-times of one instant.

A YAML file can also hold a collection that contains itself. Such a collection is a `knot`: it has
a label, and inside it the label stands for the whole. `Document.opened` unties a knot by one turn,
so that whoever looks into a document meets labels only below knots.
-/

namespace RunCharts

inductive Scalar where
  | null
  | bool (b : Bool)
  | int (n : Int)
  | float (x : Binary64)
  | text (s : String)
  | bytes (bs : List UInt8)
  | date (d : Date)
  | dateTime (t : DateTime)
deriving DecidableEq

inductive Document where
  | scalar (s : Scalar)
  | list (items : List Document)
  | mapping (entries : List (Scalar × Document))
  | pair (key value : Document)
  | set (items : List Scalar)
  | knot (label : Nat) (body : Document)
  /-- The knot of a label, inside it; it may be a list or a mapping. -/
  | back (label : Nat) (isList : Bool)

namespace Scalar

/-- The representative of all keys that are equal to this one: the integer, if there is one. -/
def keyForm : Scalar → Scalar
  | bool b => int b.toNat
  | float x => match x.toInt? with
    | some n => int n
    | none => float x
  | s => s

/-- Whether two scalars are one key of a mapping. NaN is no key twice. -/
def sameKey : Scalar → Scalar → Bool
  | dateTime t, dateTime u =>
    match t.offset, u.offset with
    | some _, some _ => t.instant == u.instant
    | _, _ => decide (t = u)
  | a, b => decide (a.keyForm = b.keyForm) && decide (a.keyForm ≠ float .nan)

instance : BEq Scalar := ⟨sameKey⟩

end Scalar

namespace Document

instance : Inhabited Document := ⟨scalar .null⟩

abbrev null : Document := scalar .null

def get (key : String) : List (Scalar × Document) → Document
  | [] => null
  | (k, value) :: entries => if k = .text key then value else get key entries

def hasKey (key : String) (entries : List (Scalar × Document)) : Bool :=
  entries.any fun e => e.1 = .text key

mutual

def fill (label : Nat) (part : Document) : Document → Document
  | back l isList => if l = label then part else back l isList
  | knot l body => if l = label then knot l body else knot l (fill label part body)
  | list items => list (fillItems label part items)
  | mapping entries => mapping (fillEntries label part entries)
  | pair key value => pair (fill label part key) (fill label part value)
  | scalar s => scalar s
  | set items => set items

def fillItems (label : Nat) (part : Document) : List Document → List Document
  | [] => []
  | d :: ds => fill label part d :: fillItems label part ds

def fillEntries (label : Nat) (part : Document) :
    List (Scalar × Document) → List (Scalar × Document)
  | [] => []
  | (key, d) :: entries => (key, fill label part d) :: fillEntries label part entries

end

def opened : Document → Document
  | knot label body => fill label (knot label body) body
  | d => d

def entries? (d : Document) : Option (List (Scalar × Document)) :=
  match d.opened with
  | mapping entries => some entries
  | _ => none

/-- The entries of a mapping; anything else has none. -/
def entries (d : Document) : List (Scalar × Document) := d.entries?.getD []

def items? (d : Document) : Option (List Document) :=
  match d.opened with
  | list items => some items
  | _ => none

/-- The mappings among the items of a list; anything else has none. -/
def records (d : Document) : List (List (Scalar × Document)) :=
  (d.items?.getD []).filterMap entries?

/-- Whether there is something: null, false, zero and what is empty are nothing. -/
def isSomething : Document → Bool
  | scalar .null => false
  | scalar (.bool b) => b
  | scalar (.int n) => n != 0
  | scalar (.float (.finite _ units _)) => units != 0
  | scalar (.text s) => s != ""
  | scalar (.bytes bs) => !bs.isEmpty
  | scalar _ => true
  | list items => !items.isEmpty
  | mapping entries => !entries.isEmpty
  | set items => !items.isEmpty
  | pair .. | knot .. | back .. => true

def orElse (d e : Document) : Document := if d.isSomething then d else e

mutual

def ofJson : Json → Document
  | .null => null
  | .bool b => scalar (.bool b)
  | .int n => scalar (.int n)
  | .float x => scalar (.float x)
  | .str s => scalar (.text s)
  | .arr items => list (ofItems items)
  | .obj fields => mapping (ofFields fields)

def ofItems : List Json → List Document
  | [] => []
  | j :: js => ofJson j :: ofItems js

def ofFields : List (String × Json) → List (Scalar × Document)
  | [] => []
  | (key, j) :: fields => (.text key, ofJson j) :: ofFields fields

end

end Document

end RunCharts
