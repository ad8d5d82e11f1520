import RunCharts.Yaml.Part

/-!
# Documents from YAML

The document of a text. What several nodes refer to is repeated, unless it contains the place where
it is referred to: then there is a knot.
-/

namespace RunCharts.Yaml

/-- A part of a document, with the labels of the knots around it that it refers to. -/
structure Piece where
  document : Document
  free : List NodeId
  /-- Whether there is no knot in it. -/
  isTree : Bool

namespace Piece

def leaf (d : Document) : Piece := ⟨d, [], true⟩

def again (id : NodeId) (isList : Bool) : Piece := ⟨.back id isList, [id], false⟩

/-- A collection of pieces. It is a knot if it refers to itself or to a knot around it. -/
def collect (id : NodeId) (d : Document) (pieces : List Piece) : Piece :=
  let free := pieces.flatMap Piece.free
  ⟨if free.isEmpty then d else .knot id d, free.filter (· != id), pieces.all Piece.isTree⟩

end Piece

namespace Part

def isList : Part → Bool
  | list _ | pairs _ => true
  | _ => false

end Part

namespace Piece

abbrev Known := StateM (Array (Option Document))

def ofNode (parts : Array (Option Part)) : Nat → List NodeId → NodeId → Known Piece
  | 0, _, _ => return .leaf .null
  | fuel + 1, path, id => do
    match (← get)[id]? with
    | some (some d) => return .leaf d
    | _ =>
      match parts[id]? with
      | some (some part) =>
        if path.contains id then return .again id part.isList
        let below := ofNode parts fuel (id :: path)
        let p ← match part with
          | .scalar s => pure (leaf (.scalar s))
          | .set items => pure (leaf (.set items))
          | .list items => do
            let ps ← items.mapM below
            pure (collect id (.list (ps.map Piece.document)) ps)
          | .mapping entries => do
            let ps ← entries.mapM fun e => below e.2
            pure (collect id
              (.mapping ((entries.map Prod.fst).zip (ps.map Piece.document))) ps)
          | .pairs entries => do
            let ps ← entries.mapM fun e => return (← below e.1, ← below e.2)
            pure (collect id
              (.list (ps.map fun p => .pair p.1.document p.2.document))
              (ps.flatMap fun p => [p.1, p.2]))
        if p.isTree then modify fun known => known.setIfInBounds id (some p.document)
        return p
      | _ => return .leaf .null

end Piece

def Graph.toDocument (g : Graph) : Except Fault Document := do
  let parts ← g.parts
  let known := Array.replicate parts.size none
  return ((Piece.ofNode parts (parts.size + 1) [] g.root).run known).1.document

def isAllowed (c : Char) : Bool :=
  c == '\t' || c == '\n' || c == '\r' || (' ' ≤ c && c ≤ '~') || c == '\x85' ||
    ('\xa0' ≤ c && c ≤ '\ud7ff') || ('\ue000' ≤ c && c ≤ '\ufffd') || 0x10000 ≤ c.toNat

def read (s : String) : Except Fault Document := do
  let cs := s.toList
  if !cs.all isAllowed then malformed
  (← Graph.ofTokens (Token.ofChars cs)).toDocument

end RunCharts.Yaml
