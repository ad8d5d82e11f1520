import RunCharts.Yaml.Merge
import RunCharts.Yaml.Scalar

/-!
# Parts of a document

What the nodes of a graph stand for. Scalars are read where they are met; collections are put in a
queue and read in turn, so that a fault near the top comes before one further down. Each node is
read once, however many nodes refer to it.

Keys have to be scalars; a key that is given again takes the last value. A mapping with the key of a
default value can stand where a scalar is asked for.
-/

namespace RunCharts.Yaml

/-- A key of a mapping or an item of a set. Of the numbers without a value, those that are written
alike are one key, and others are keys of their own. -/
structure Key where
  scalar : Scalar
  /-- The node of a number without a value that is a key of its own. -/
  node : Option NodeId

namespace Key

def same (a b : Key) : Bool :=
  if a.scalar = .float .nan ∧ b.scalar = .float .nan then a.node == b.node
  else a.scalar.sameKey b.scalar

instance : BEq Key := ⟨same⟩

end Key

inductive Part where
  | scalar (s : Scalar)
  | list (items : List NodeId)
  | mapping (entries : List (Scalar × NodeId))
  | pairs (entries : List (NodeId × NodeId))
  | set (items : List Scalar)

namespace Part

/-- The nodes, what those stand for that were met, and the collections in the order in which they
were met. -/
structure State where
  nodes : Array Node
  merges : Nat
  parts : Array (Option Part)
  queue : Array NodeId

abbrev Read := StateT State (Except Fault)

def nodeAt (id : NodeId) : Read Node := do
  match (← get).nodes[id]? with
  | some node => return node
  | none => throw .yamlMalformed

def setPart (id : NodeId) (part : Part) : Read Unit :=
  modify fun st => { st with parts := st.parts.setIfInBounds id (some part) }

def textOf (nodes : Array Node) : Nat → Content → Except Fault (List Char)
  | 0, _ => .error .yamlTooDeep
  | _ + 1, .scalar text => .ok text
  | _ + 1, .sequence _ => malformed
  | fuel + 1, .mapping entries =>
    match (entries.find? fun e => Merge.hasTag nodes .default e.1).bind fun e => nodes[e.2]? with
    | some node => textOf nodes fuel node.content
    | none => malformed

/-- The scalar of a node. A date is not read from a default value. -/
def scalarOf (nodes : Array Node) (node : Node) : Except Fault Scalar := do
  if node.tag = .merge ∨ node.tag = .default ∨ node.tag = .unknown then malformed
  let text ← textOf nodes (nodes.size + 1) node.content
  match node.tag, node.content with
  | .timestamp, .mapping _ => .error .timestampParts
  | tag, _ => Scalars.ofText tag text

/-- Meets a node: reads a scalar, or puts a collection in the queue. -/
def meet (id : NodeId) : Read Unit := do
  let st ← get
  if (st.parts[id]?.bind fun part => part).isNone then
    let node ← nodeAt id
    if node.tag.isCollection then
      setPart id (.list [])
      modify fun st => { st with queue := st.queue.push id }
    else setPart id (.scalar (← scalarOf st.nodes node))

def isPlainNan (nodes : Array Node) (node : Node) : Bool :=
  match textOf nodes (nodes.size + 1) node.content with
  | .ok text => (Scalars.floatBody text).2 == Scalars.nanWord
  | .error _ => false

def keyOf (id : NodeId) : Read Key := do
  meet id
  let st ← get
  match st.parts[id]? with
  | some (some (.scalar s)) =>
    let ownsIt := s = .float .nan ∧ !(st.nodes[id]?.any fun node => isPlainNan st.nodes node)
    return ⟨s, if ownsIt then some id else none⟩
  | _ => throw .yamlMalformed

/-- The entries of a mapping: each key is read before its value. -/
def entriesOf (id : NodeId) : Read (List (Key × NodeId)) := do
  let st ← get
  let (entries, nodes) ← (Merge.entries st.merges id).run st.nodes
  modify fun st => { st with nodes := nodes }
  let entries ← entries.mapM fun e => do
    let key ← keyOf e.1
    meet e.2
    return (key, e.2)
  return upsertAll entries

def onlyEntry (id : NodeId) : Read (NodeId × NodeId) := do
  match (← nodeAt id).content with
  | .mapping [entry] =>
    meet entry.1
    meet entry.2
    return entry
  | _ => throw .yamlMalformed

/-- The number of places for the items of a set: a power of two, at least eight, and more than two
for each item where there are more than four. -/
def places (fuel size count : Nat) : Nat :=
  match fuel with
  | 0 => size
  | fuel + 1 => if 5 ≤ count ∧ size ≤ 2 * count then places fuel (2 * size) count else size

/-- The modulus of the residues of numbers: `2 ^ 61` leaves one. -/
def modulus : Nat := Nat.pow 2 61 - 1

/-- The residue of a finite number, with its sign. A float counts units of `2 ^ -1074`, which is as
much as `2 ^ 24`. -/
def residue? : Scalar → Option Int
  | .int n => some (Int.tmod n modulus)
  | .float (.finite negative units _) =>
    some (Numeral.applySign negative (units * Nat.pow 2 24 % modulus))
  | _ => none

/-- The number of 64 bits whose remainder is the first place of a residue. Minus one counts as minus
two. -/
def placeCode (n : Int) : Nat := ((if n = -1 then -2 else n) % Int.pow 2 64).toNat

def placesTried : Nat := 9

/-- The place of an item: the first one that is free among its neighbours, or else after jumps,
which what is left of the code scatters. -/
def freePlace (taken : List Nat) (size : Nat) : Nat → Nat → Nat → Nat
  | 0, _, place => place
  | fuel + 1, code, place =>
    let tried := if place + placesTried < size then List.range' place (placesTried + 1) else [place]
    match tried.find? fun p => !taken.contains p with
    | some p => p
    | none => freePlace taken size fuel (code / 32) ((5 * place + 1 + code / 32) % size)

def placesOf (size : Nat) (codes : List Nat) : List Nat :=
  (codes.foldl (fun taken code => freePlace taken size (size + 64) code (code % size) :: taken)
    []).reverse

/-- The items of a set in their order: finite numbers by their places, others as they came. -/
def arranged (items : List Scalar) : List Scalar :=
  match items.mapM fun s => residue? s.keyForm with
  | none => items
  | some residues =>
    let size := places items.length 8 items.length
    let found := placesOf size (residues.map placeCode)
    ((found.zip items).mergeSort fun a b => a.1 ≤ b.1).map Prod.snd

def collection (id : NodeId) (node : Node) : Read Part := do
  match node.tag, node.content with
  | .sequence, .sequence items =>
    items.forM meet
    return .list items
  | .omap, .sequence items | .pairs, .sequence items => return .pairs (← items.mapM onlyEntry)
  | .mapping, .mapping _ => return .mapping ((← entriesOf id).map fun e => (e.1.scalar, e.2))
  | .set, .mapping _ => return .set (arranged ((← entriesOf id).map fun e => e.1.scalar))
  | _, _ => throw .yamlMalformed

def drain : Nat → Nat → Read Unit
  | 0, _ => return ()
  | fuel + 1, place => do
    match (← get).queue[place]? with
    | none => return ()
    | some id =>
      setPart id (← collection id (← nodeAt id))
      drain fuel (place + 1)

end Part

/-- What the nodes of a graph stand for, as far as they are reached. Every node is in the queue once
at most. -/
def Graph.parts (g : Graph) : Except Fault (Array (Option Part)) := do
  let read : Part.Read Unit := do
    Part.meet g.root
    Part.drain g.nodes.size 0
  let (_, st) ← read.run
    ⟨g.nodes, Merge.count g.nodes, Array.replicate g.nodes.size none, #[]⟩
  return st.parts

end RunCharts.Yaml
