import RunCharts.Decimal.Numeral
import RunCharts.Document.Json
import RunCharts.Run.Basic
import RunCharts.Status

/-!
# Runs from documents

A run is read leniently: what is missing or of the wrong kind counts as nothing, and entries of
lists that are no mappings are passed over. What does end the reading is an infinite count, a
measurement value that cannot be written as JSON, an integer that has no text, a provider whose name
is no text, and a document that is no mapping.
-/

namespace RunCharts

def wholeOfBytes? (bytes : List UInt8) : Option Int :=
  if bytes.all (· < 0x80) then
    Numeral.whole? (String.ofList (bytes.map fun b => Char.ofNat b.toNat))
  else none

def Document.int? : Document → Except Fault (Option Int)
  | .scalar (.bool b) => .ok (some b.toNat)
  | .scalar (.int n) => .ok (some n)
  | .scalar (.float (.infinite _)) => .error .infiniteCount
  | .scalar (.float x) => .ok x.truncate?
  | .scalar (.text s) => .ok (Numeral.whole? s)
  | .scalar (.bytes bs) => .ok (wholeOfBytes? bs)
  | _ => .ok none

namespace Run

abbrev Entries := List (Scalar × Document)

def text? (key : String) (entries : Entries) : Except Fault (Option String) :=
  (Document.get key entries).text?

def textOr (default key : String) (entries : Entries) : Except Fault String :=
  ((Document.get key entries).orElse (.scalar (.text default))).text

/-- A count: zero where there is none. -/
def count (key : String) (entries : Entries) : Except Fault Int := do
  return (← (Document.get key entries).int?).getD 0

/-- A limit. Truth values are none. -/
def limit? (key : String) (entries : Entries) : Except Fault (Option Int) :=
  match Document.get key entries with
  | .scalar (.bool _) => .ok none
  | d => d.int?

def phase (entries : Entries) : Except Fault String :=
  textOr Phase.unknown.text "phase" entries

/-- The text of a measurement value. A value that is not a text is written as JSON. -/
def value? (entries : Entries) : Except Fault (Option String) :=
  match Document.get "value" entries with
  | .scalar .null => .ok none
  | .scalar (.text s) => .ok (some s)
  | d => d.toJson.map fun j => some (j.text .spaced)

def measurement (entries : Entries) : Except Fault Measurement := do
  return {
    phase := ← phase entries
    value := ← value? entries
    startedAt := ← text? "startedAt" entries
    finishedAt := ← text? "finishedAt" entries
    message := ← text? "message" entries }

def metricResult (entries : Entries) : Except Fault MetricResult := do
  return {
    name := ← text? "name" entries
    phase := ← phase entries
    failed := ← count "failed" entries
    error := ← count "error" entries
    inconclusive := ← count "inconclusive" entries
    successful := ← count "successful" entries
    consecutiveError := ← count "consecutiveError" entries
    count := ← count "count" entries
    message := ← text? "message" entries
    measurements := ← (Document.get "measurements" entries).records.mapM measurement }

def metricSpec (entries : Entries) : Except Fault MetricSpec := do
  return {
    name := ← textOr "" "name" entries
    provider := ← Provider.ofDocument (Document.get "provider" entries)
    successCondition := ← text? "successCondition" entries
    failureCondition := ← text? "failureCondition" entries
    consecutiveErrorLimit := ← limit? "consecutiveErrorLimit" entries
    failureLimit := ← limit? "failureLimit" entries
    inconclusiveLimit := ← limit? "inconclusiveLimit" entries }

def argument (entries : Entries) : Except Fault Argument := do
  return ⟨← textOr "" "name" entries, ← text? "value" entries⟩

def spec (entries : Entries) : Except Fault RunSpec := do
  return {
    metrics := ← (Document.get "metrics" entries).records.mapM metricSpec
    args := ← (Document.get "args" entries).records.mapM argument }

def summary (entries : Entries) : Except Fault RunSummary := do
  return {
    count := ← count "count" entries
    successful := ← count "successful" entries
    failed := ← count "failed" entries
    inconclusive := ← count "inconclusive" entries
    error := ← count "error" entries }

def status (entries : Entries) : Except Fault RunStatus := do
  return {
    phase := ← phase entries
    message := ← text? "message" entries
    results := ← (Document.get "metricResults" entries).records.mapM metricResult
    summary := ← summary (Document.get "runSummary" entries).entries
    startedAt := ← text? "startedAt" entries }

def part? {α : Type} (read : Entries → Except Fault α) (d : Document) :
    Except Fault (Option α) :=
  match d.entries? with
  | none => .ok none
  | some entries => (read entries).map some

def snapshotOf (entries : Entries) : Except Fault Snapshot := do
  return {
    spec := ← part? spec (Document.get "spec" entries)
    status := ← part? status (Document.get "status" entries) }

/-- A run: spec and status stand in an entry of their own or at the top. -/
def ofEntries (entries : Entries) : Except Fault Run := do
  let about := (Document.get "objectMeta" entries).orElse (Document.get "metadata" entries)
  return {
    name := ← text? "name" about.entries
    createdAt := ← text? "creationTimestamp" about.entries
    snapshot := ← snapshotOf (((Document.get "specAndStatus" entries).entries?).getD entries) }

def ofDocument (d : Document) : Except Fault Run :=
  match d.entries? with
  | none => .error .runNotMapping
  | some entries => ofEntries entries

end Run

end RunCharts
