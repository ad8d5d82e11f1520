import RunCharts.Proofs.Provider.Faults
import RunCharts.Run.Document

/-!
# What keeps a run from being read

The parts of a run's document in the order in which they are read, each by what is looked for
there: a text, a count or limit, a measurement value, a provider. A list has the parts of the
mappings in it and no others. Reading a run ends with the first fault of its parts, so that it
succeeds exactly if no part has one.

Main statement: `ofEntries_reads`.
-/

namespace RunCharts

open Traversal

namespace Document

def isInfinite : Document → Bool
  | scalar (.float (.infinite _)) => true
  | _ => false

def whole? : Document → Option Int
  | scalar (.bool b) => some b.toNat
  | scalar (.int n) => some n
  | scalar (.float x) => x.truncate?
  | scalar (.text s) => Numeral.whole? s
  | scalar (.bytes bs) => wholeOfBytes? bs
  | _ => none

theorem int?_eq (d : Document) :
    d.int? = if d.isInfinite then .error .infiniteCount else .ok d.whole? := by
  cases d with
  | scalar s =>
    cases s with
    | float x => cases x <;> rfl
    | _ => rfl
  | _ => rfl

def countFaults (d : Document) : List Fault :=
  if d.isInfinite then [.infiniteCount] else []

theorem int?_endsAtFirst (d : Document) : EndsAtFirst d.int? d.countFaults := by
  rw [int?_eq, countFaults]
  split
  · exact endsAtFirst_error _ []
  · exact endsAtFirst_ok _

end Document

namespace Run

inductive Part where
  | text (d : Document)
  | count (d : Document)
  | value (d : Document)
  | provider (d : Document)

namespace Part

def document : Part → Document
  | text d | count d | value d | provider d => d

def faults : Part → List Fault
  | text d => d.textFaults
  | count d => d.countFaults
  | value d => d.jsonFaults
  | provider d => Provider.faults d

end Part

def texts (keys : List String) (entries : Entries) : List Part :=
  keys.map fun key => .text (Document.get key entries)

def counts (keys : List String) (entries : Entries) : List Part :=
  keys.map fun key => .count (Document.get key entries)

def measurementParts (entries : Entries) : List Part :=
  texts ["phase"] entries ++ .value (Document.get "value" entries) ::
    texts ["startedAt", "finishedAt", "message"] entries

def metricResultParts (entries : Entries) : List Part :=
  texts ["name", "phase"] entries ++
    counts ["failed", "error", "inconclusive", "successful", "consecutiveError", "count"] entries ++
    texts ["message"] entries ++
    (Document.get "measurements" entries).records.flatMap measurementParts

def metricSpecParts (entries : Entries) : List Part :=
  texts ["name"] entries ++ .provider (Document.get "provider" entries) ::
    texts ["successCondition", "failureCondition"] entries ++
    counts ["consecutiveErrorLimit", "failureLimit", "inconclusiveLimit"] entries

def specParts (entries : Entries) : List Part :=
  (Document.get "metrics" entries).records.flatMap metricSpecParts ++
    (Document.get "args" entries).records.flatMap (texts ["name", "value"])

def statusParts (entries : Entries) : List Part :=
  texts ["phase", "message"] entries ++
    (Document.get "metricResults" entries).records.flatMap metricResultParts ++
    counts ["count", "successful", "failed", "inconclusive", "error"]
      (Document.get "runSummary" entries).entries ++
    texts ["startedAt"] entries

def snapshotParts (entries : Entries) : List Part :=
  (Document.get "spec" entries).entries?.toList.flatMap specParts ++
    (Document.get "status" entries).entries?.toList.flatMap statusParts

def parts (entries : Entries) : List Part :=
  let about := (Document.get "objectMeta" entries).orElse (Document.get "metadata" entries)
  texts ["name", "creationTimestamp"] about.entries ++
    snapshotParts ((Document.get "specAndStatus" entries).entries?.getD entries)

/-- Whether a reading ends with the first fault of these parts. -/
def Reads {α : Type} (x : Except Fault α) (parts : List Part) : Prop :=
  EndsAtFirst x (parts.flatMap Part.faults)

namespace Reads

variable {α β : Type} {x : Except Fault α} {here there : List Part}

theorem bind {k : α → Except Fault β} (h : Reads x here) (hk : ∀ a, Reads (k a) there) :
    Reads (x >>= k) (here ++ there) := by
  unfold Reads
  rw [List.flatMap_append]
  exact EndsAtFirst.bind h fun a _ => hk a

theorem bind_pure (h : Reads x here) (g : α → β) : Reads (x >>= fun a => pure (g a)) here :=
  EndsAtFirst.bind_pure h g

theorem mapM {γ : Type} {f : γ → Except Fault α} {partsOf : γ → List Part}
    (h : ∀ c, Reads (f c) (partsOf c)) (cs : List γ) :
    Reads (cs.mapM f) (cs.flatMap partsOf) := by
  unfold Reads
  rw [List.flatMap_assoc]
  exact endsAtFirst_mapM fun c _ => h c

theorem single {p : Part} (h : EndsAtFirst x p.faults) : Reads x [p] := by
  unfold Reads
  rw [List.flatMap_singleton]
  exact h

end Reads

section

variable (key : String) (entries : Entries)

theorem text?_reads : Reads (text? key entries) [.text (Document.get key entries)] :=
  .single (Document.text?_endsAtFirst _)

theorem textOr_reads (default : String) :
    Reads (textOr default key entries) [.text (Document.get key entries)] := by
  apply Reads.single
  rw [Part.faults, ← Document.textFaults_orElse _ default]
  exact Document.text_endsAtFirst _

theorem count_reads : Reads (count key entries) [.count (Document.get key entries)] :=
  .bind_pure (.single (Document.int?_endsAtFirst _)) _

theorem limit?_reads : Reads (limit? key entries) [.count (Document.get key entries)] := by
  apply Reads.single
  unfold limit?
  split
  · rename_i hbool
    rw [hbool]
    exact endsAtFirst_ok _
  · exact Document.int?_endsAtFirst _

theorem value?_reads : Reads (value? entries) [.value (Document.get "value" entries)] := by
  apply Reads.single
  unfold value?
  split
  · rename_i hnull
    rw [hnull]
    exact endsAtFirst_ok _
  · rename_i htext
    rw [htext]
    exact endsAtFirst_ok _
  · exact (Document.toJson_endsAtFirst _).map _

end

theorem measurement_reads (entries : Entries) :
    Reads (measurement entries) (measurementParts entries) := by
  apply (textOr_reads "phase" entries _).bind
  intro phase
  apply (value?_reads entries).bind
  intro value
  apply (text?_reads "startedAt" entries).bind
  intro startedAt
  apply (text?_reads "finishedAt" entries).bind
  intro finishedAt
  exact (text?_reads "message" entries).bind_pure _

theorem metricResult_reads (entries : Entries) :
    Reads (metricResult entries) (metricResultParts entries) := by
  apply (text?_reads "name" entries).bind
  intro name
  apply (textOr_reads "phase" entries _).bind
  intro phase
  apply (count_reads "failed" entries).bind
  intro failed
  apply (count_reads "error" entries).bind
  intro error
  apply (count_reads "inconclusive" entries).bind
  intro inconclusive
  apply (count_reads "successful" entries).bind
  intro successful
  apply (count_reads "consecutiveError" entries).bind
  intro consecutiveError
  apply (count_reads "count" entries).bind
  intro count
  apply (text?_reads "message" entries).bind
  intro message
  exact (Reads.mapM measurement_reads _).bind_pure _

theorem metricSpec_reads (entries : Entries) :
    Reads (metricSpec entries) (metricSpecParts entries) := by
  apply (textOr_reads "name" entries _).bind
  intro name
  apply (Reads.single (Provider.ofDocument_endsAtFirst _)).bind
  intro provider
  apply (text?_reads "successCondition" entries).bind
  intro successCondition
  apply (text?_reads "failureCondition" entries).bind
  intro failureCondition
  apply (limit?_reads "consecutiveErrorLimit" entries).bind
  intro consecutiveErrorLimit
  apply (limit?_reads "failureLimit" entries).bind
  intro failureLimit
  exact (limit?_reads "inconclusiveLimit" entries).bind_pure _

theorem argument_reads (entries : Entries) :
    Reads (argument entries) (texts ["name", "value"] entries) := by
  apply (textOr_reads "name" entries _).bind
  intro name
  exact (text?_reads "value" entries).bind_pure _

theorem spec_reads (entries : Entries) : Reads (spec entries) (specParts entries) := by
  apply (Reads.mapM metricSpec_reads _).bind
  intro metrics
  exact (Reads.mapM argument_reads _).bind_pure _

theorem summary_reads (entries : Entries) :
    Reads (summary entries)
      (counts ["count", "successful", "failed", "inconclusive", "error"] entries) := by
  apply (count_reads "count" entries).bind
  intro count
  apply (count_reads "successful" entries).bind
  intro successful
  apply (count_reads "failed" entries).bind
  intro failed
  apply (count_reads "inconclusive" entries).bind
  intro inconclusive
  exact (count_reads "error" entries).bind_pure _

theorem status_reads (entries : Entries) : Reads (status entries) (statusParts entries) := by
  -- The summary is a reading of its own, so its counts have to stand apart from what follows.
  rw [statusParts, List.append_assoc, List.append_assoc]
  apply (textOr_reads "phase" entries _).bind
  intro phase
  apply (text?_reads "message" entries).bind
  intro message
  apply (Reads.mapM metricResult_reads _).bind
  intro results
  apply (summary_reads _).bind
  intro summary
  exact (text?_reads "startedAt" entries).bind_pure _

theorem part?_reads {α : Type} {read : Entries → Except Fault α} {partsOf : Entries → List Part}
    (h : ∀ entries, Reads (read entries) (partsOf entries)) (d : Document) :
    Reads (part? read d) (d.entries?.toList.flatMap partsOf) := by
  unfold part?
  cases d.entries? with
  | none => exact endsAtFirst_ok _
  | some entries =>
    rw [Option.toList_some, List.flatMap_singleton]
    exact EndsAtFirst.map (h entries) some

theorem snapshotOf_reads (entries : Entries) :
    Reads (snapshotOf entries) (snapshotParts entries) := by
  apply (part?_reads spec_reads _).bind
  intro spec
  exact (part?_reads status_reads _).bind_pure _

theorem ofEntries_reads (entries : Entries) : Reads (ofEntries entries) (parts entries) := by
  apply (text?_reads "name" _).bind
  intro name
  apply (text?_reads "creationTimestamp" _).bind
  intro createdAt
  exact (snapshotOf_reads _).bind_pure _

end Run

end RunCharts
