import RunCharts.Document.Display
import RunCharts.Entries
import RunCharts.Fault

/-!
# Providers

Where a metric's values come from. A provider is written as a mapping with the provider's name as
its key, and the first key alone decides. Names that are not among the eight known ones are kept
with their settings, but nothing is read from them.
-/

namespace RunCharts

inductive Provider where
  | prometheus (query : Option String)
  | datadog (version : String) (query : Option String) (queries : Option (List (String × String)))
      (formula : Option String)
  | wavefront (query : Option String)
  | newRelic (query : Option String) (profile : Option String)
  | cloudWatch (queries : Document)
  | graphite (query : Option String)
  | influxdb (query : Option String)
  | skywalking (query : Option String)
  | unsupported (name : String) (settings : List (Scalar × Document))

namespace Provider

def name : Provider → String
  | prometheus _ => "prometheus"
  | datadog .. => "datadog"
  | wavefront _ => "wavefront"
  | newRelic .. => "newRelic"
  | cloudWatch _ => "cloudWatch"
  | graphite _ => "graphite"
  | influxdb _ => "influxdb"
  | skywalking _ => "skywalking"
  | unsupported name _ => name

def noneName : String := "unsupported provider"

def nameOf : Option Provider → String
  | none => noneName
  | some p => p.name

def isSupported : Provider → Bool
  | unsupported .. => false
  | _ => true

def supportedNames : List String :=
  ["prometheus", "datadog", "wavefront", "newRelic", "cloudWatch", "graphite", "influxdb",
    "skywalking"]

def namedQueries? (d : Document) : Except Fault (Option (List (String × String))) :=
  match d.entries? with
  | none => .ok none
  | some entries => do
    let queries ← entries.mapM fun e => return (← e.1.asText, ← e.2.text)
    return some (upsertAll queries)

def ofSettings (name : String) (settings : List (Scalar × Document)) : Except Fault Provider :=
  let text? key := (Document.get key settings).text?
  if name = "prometheus" then (text? "query").map prometheus
  else if name = "datadog" then do
    let queries ← namedQueries? (Document.get "queries" settings)
    let version ← ((Document.get "apiVersion" settings).orElse (.scalar (.text "v1"))).text
    let query ← text? "query"
    let formula ← text? "formula"
    return datadog version query queries formula
  else if name = "wavefront" then (text? "query").map wavefront
  else if name = "newRelic" then do
    let query ← text? "query"
    let profile ← text? "profile"
    return newRelic query profile
  else if name = "cloudWatch" then .ok (cloudWatch (Document.get "metricDataQueries" settings))
  else if name = "graphite" then (text? "query").map graphite
  else if name = "influxdb" then (text? "query").map influxdb
  else if name = "skywalking" then (text? "query").map skywalking
  else .ok (unsupported name settings)

/-- The provider of a document. The name is the text of the first key; where that text is no key
itself, the provider cannot be looked up. -/
def ofDocument (d : Document) : Except Fault (Option Provider) :=
  match d.entries? with
  | some ((key, value) :: entries) => do
    let name ← key.asText
    if Document.hasKey name ((key, value) :: entries) then
      let body := Document.get name ((key, value) :: entries)
      return some (← ofSettings name body.entries)
    else .error (.providerName name)
  | _ => .ok none

/-- A provider that is read has the name it is written with. -/
theorem name_of_ofSettings {name : String} {settings : List (Scalar × Document)} {p : Provider}
    (h : ofSettings name settings = .ok p) : p.name = name := by
  simp only [ofSettings, Except.map, bind, Except.bind, pure, Except.pure] at h
  repeat' split at h
  all_goals simp_all
  all_goals subst h; rfl

/-- A provider that is read is understood if its name is among the known ones. -/
theorem isSupported_of_ofSettings_iff {name : String} {settings : List (Scalar × Document)}
    {p : Provider} (h : ofSettings name settings = .ok p) :
    p.isSupported = true ↔ name ∈ supportedNames := by
  simp only [ofSettings, Except.map, bind, Except.bind, pure, Except.pure] at h
  simp only [supportedNames]
  repeat' split at h
  all_goals simp_all
  all_goals subst h; rfl

end Provider

end RunCharts
