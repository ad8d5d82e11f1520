import RunCharts.Entries

/-!
# Kinds of nodes

A tag gives a node its kind by a name that starts with `tag:yaml.org,2002:`. The kinds of
collections are read from nodes that are collections, all others from scalars.
-/

namespace RunCharts.Yaml

inductive Tag where
  | null
  | bool
  | int
  | float
  | timestamp
  | text
  /-- Bytes in base 64. -/
  | binary
  | merge
  | default
  | sequence
  | mapping
  /-- A list of mappings with one entry each, in an order. -/
  | omap
  /-- The same, where keys may be given twice. -/
  | pairs
  | set
  /-- A kind that is not read. -/
  | unknown
deriving DecidableEq, Repr

namespace Tag

def isCollection : Tag → Bool
  | sequence | mapping | omap | pairs | set => true
  | _ => false

def nameStart : List Char := "tag:yaml.org,2002:".toList

def names : List (String × Tag) :=
  [("null", null), ("bool", bool), ("int", int), ("float", float), ("timestamp", timestamp),
   ("str", text), ("binary", binary), ("merge", merge), ("value", default), ("seq", sequence),
   ("map", mapping), ("omap", omap), ("pairs", pairs), ("set", set)]

def ofName (name : List Char) : Tag :=
  if nameStart.isPrefixOf name then
    (lookup (String.ofList (name.drop nameStart.length)) names).getD unknown
  else unknown

end Tag

end RunCharts.Yaml
