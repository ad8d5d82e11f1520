import RunCharts.Yaml.Graph

/-!
# Merged mappings

The entries under a merge key come in front of the entries of the mapping itself. Merging changes
the nodes: afterwards no merge key is left in the mapping, nor in those that it takes entries from.
A mapping may be merged into itself. The key of a default value becomes a text.

Every round takes a merge key out of the nodes and none comes in, so that their number bounds the
rounds.
-/

namespace RunCharts.Yaml

abbrev Entries := List (NodeId × NodeId)

namespace Merge

abbrev Change := StateT (Array Node) (Except Fault)

def contentOf (id : NodeId) : Change Content := do
  match (← get)[id]? with
  | some node => return node.content
  | none => throw .yamlMalformed

def entriesOf (id : NodeId) : Change Entries := do
  match ← contentOf id with
  | .mapping entries => return entries
  | _ => throw .yamlMalformed

def setEntries (id : NodeId) (entries : Entries) : Change Unit :=
  modify fun nodes => nodes.modify id fun n => { n with content := .mapping entries }

def hasTag (nodes : Array Node) (tag : Tag) (id : NodeId) : Bool :=
  nodes[id]?.any fun n => n.tag = tag

def nameDefaults (entries : Entries) : Change Unit :=
  modify fun nodes => entries.foldl (fun nodes e =>
    if hasTag nodes .default e.1 then nodes.modify e.1 fun n => { n with tag := .text }
    else nodes) nodes

mutual

def flatten : Nat → NodeId → Change Unit
  | 0, _ => throw .yamlMalformed
  | fuel + 1, id => do
    nameDefaults (← entriesOf id)
    flattenFrom fuel id 0 []

/-- Merges from a place on, `merged` being the entries found so far. -/
def flattenFrom : Nat → NodeId → Nat → Entries → Change Unit
  | 0, _, _, _ => throw .yamlMalformed
  | fuel + 1, id, start, merged => do
    let entries ← entriesOf id
    let nodes ← get
    let front := (entries.drop start).takeWhile fun e => !hasTag nodes .merge e.1
    let place := start + front.length
    match entries[place]? with
    | none => setEntries id (merged ++ entries)
    | some (_, value) =>
      setEntries id (entries.eraseIdx place)
      let more ← mergedEntries fuel value
      flattenFrom fuel id place (merged ++ more)

/-- The entries of what stands under a merge key: a mapping, or a list of them, of which later ones
are put in front. -/
def mergedEntries : Nat → NodeId → Change Entries
  | 0, _ => throw .yamlMalformed
  | fuel + 1, id => do
    match ← contentOf id with
    | .scalar _ => throw .yamlMalformed
    | .mapping _ =>
      flatten fuel id
      entriesOf id
    | .sequence items =>
      let parts ← items.mapM fun item => do
        let _ ← entriesOf item
        flatten fuel item
        entriesOf item
      return parts.reverse.flatten

end

def count (nodes : Array Node) : Nat :=
  (nodes.toList.flatMap fun n => match n.content with
    | .mapping entries => entries
    | _ => []).countP fun e => hasTag nodes .merge e.1

/-- The entries of a mapping after merging, in nodes with at most `merges` merge keys. -/
def entries (merges : Nat) (id : NodeId) : Change Entries := do
  flatten (3 * merges + 3) id
  entriesOf id

end Merge

end RunCharts.Yaml
