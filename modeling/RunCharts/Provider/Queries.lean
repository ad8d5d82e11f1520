import RunCharts.Document.Json
import RunCharts.Json.Printer
import RunCharts.Provider.Basic
import RunCharts.Template

/-!
# Displayed queries

The queries of a provider with their placeholders replaced. Named queries and a formula are shown
on one line; structured queries are shown as compact JSON.
-/

namespace RunCharts.Provider

def queriesJson (queries : List (String × String)) : Json :=
  .obj (queries.map fun q => (q.1, .str q.2))

def singleQuery (args : List Argument) (query : Option String) : Option (List String) :=
  query.map fun q => [Template.fill args q]

/-- The queries in the version that knows named queries and formulas. One query comes before named
ones. -/
def formulaQueries (args : List Argument) (query : Option String)
    (queries : Option (List (String × String))) (formula : Option String) :
    Option (List String) :=
  match query, queries, formula.map (Template.fill args) with
  | some q, _, some f => some ["query: " ++ Template.fill args q ++ ", formula: " ++ f]
  | some q, _, none => some [Template.fill args q]
  | none, some qs, f? =>
    let filled := qs.map fun q => (q.1, Template.fill args q.2)
    match f? with
    | some f => some ["queries: " ++ (queriesJson filled).text .spaced ++ ", formula: " ++ f]
    | none => some (filled.map Prod.snd)
  | none, none, _ => none

/-- The queries to display, or none where there are none to be understood. No letter outside ASCII
has `v` as its lower case. -/
def queries (args : List Argument) : Option Provider → Except Fault (Option (List String))
  | none => .ok none
  | some (.unsupported ..) => .ok none
  | some (.datadog version query queries formula) =>
    let version := version.toList.map Char.toLower
    if version = ['v', '1'] then .ok (singleQuery args query)
    else if version = ['v', '2'] then .ok (formulaQueries args query queries formula)
    else .ok none
  | some (.cloudWatch queries) =>
    match queries.items? with
    | none => .ok none
    | some items => do
      let trees ← Document.itemsToJson items
      return some (trees.map (Json.text .compact))
  | some (.prometheus query) | some (.wavefront query) | some (.newRelic query _)
  | some (.graphite query) | some (.influxdb query) | some (.skywalking query) =>
    .ok (singleQuery args query)

end RunCharts.Provider
