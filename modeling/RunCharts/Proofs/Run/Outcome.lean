import RunCharts.Proofs.Json.Rules
import RunCharts.Proofs.Run.Faults

/-!
# What comes of a mapping that is read as a run

A mapping is read to a run unless one of its parts has a fault, and then the first fault ends the
reading. Of what JSON can hold, only the infinite counts and limits are faults. In a run that was
read, a count that stands for no whole number is zero and such a limit is missing, and the lists
hold what was read from the mappings among their items, in order.
-/

namespace RunCharts

open Traversal

def Document.isTruth : Document → Bool
  | scalar (.bool _) => true
  | _ => false

/-- The limit that a document stands for. A truth value is none. -/
def Document.limit? (d : Document) : Option Int := if d.isTruth then none else d.whole?

def MetricResult.counts (r : MetricResult) : List (String × Int) :=
  [("failed", r.failed), ("error", r.error), ("inconclusive", r.inconclusive),
    ("successful", r.successful), ("consecutiveError", r.consecutiveError), ("count", r.count)]

def RunSummary.counts (s : RunSummary) : List (String × Int) :=
  [("count", s.count), ("successful", s.successful), ("failed", s.failed),
    ("inconclusive", s.inconclusive), ("error", s.error)]

def MetricSpec.limits (m : MetricSpec) : List (String × Option Int) :=
  [("consecutiveErrorLimit", m.consecutiveErrorLimit), ("failureLimit", m.failureLimit),
    ("inconclusiveLimit", m.inconclusiveLimit)]

namespace Run

/-! ### What a run keeps -/

/-- Counts that are what stands under their keys, and zero where that is no whole number. -/
def AreCounts (entries : Entries) (counts : List (String × Int)) : Prop :=
  ∀ c ∈ counts, c.2 = (Document.get c.1 entries).whole?.getD 0

def AreLimits (entries : Entries) (limits : List (String × Option Int)) : Prop :=
  ∀ l ∈ limits, l.2 = (Document.get l.1 entries).limit?

structure IsResult (entries : Entries) (r : MetricResult) : Prop where
  counts : AreCounts entries r.counts
  measurements : List.Forall₂ (fun e m => measurement e = .ok m)
    (Document.get "measurements" entries).records r.measurements

structure IsStatus (entries : Entries) (s : RunStatus) : Prop where
  results : List.Forall₂ IsResult (Document.get "metricResults" entries).records s.results
  counts : AreCounts (Document.get "runSummary" entries).entries s.summary.counts

structure IsSpec (entries : Entries) (s : RunSpec) : Prop where
  metrics : List.Forall₂ (fun e m => AreLimits e m.limits)
    (Document.get "metrics" entries).records s.metrics
  args : List.Forall₂ (fun e a => argument e = .ok a) (Document.get "args" entries).records s.args

/-- What a run has of the entries it was read from: a part for each part that is a mapping, an
element for each element that is one, and the counts and limits. -/
structure IsReadFrom (entries : Entries) (run : Run) : Prop where
  spec : Option.Rel IsSpec (Document.get "spec"
    ((Document.get "specAndStatus" entries).entries?.getD entries)).entries? run.snapshot.spec
  status : Option.Rel IsStatus (Document.get "status"
    ((Document.get "specAndStatus" entries).entries?.getD entries)).entries? run.snapshot.status

theorem eq_of_int? {d : Document} {n : Option Int} (h : d.int? = .ok n) : n = d.whole? := by
  rw [Document.int?_eq] at h
  split at h
  · cases h
  · cases h
    rfl

section

variable {key : String} {entries : Entries}

theorem eq_of_count {n : Int} (h : count key entries = .ok n) :
    n = (Document.get key entries).whole?.getD 0 := by
  obtain ⟨whole, hwhole, hn⟩ := bind_eq_ok_iff.mp h
  cases hn
  rw [eq_of_int? hwhole]

theorem limit?_eq (key : String) (entries : Entries) :
    limit? key entries =
      if (Document.get key entries).isTruth then .ok none
      else (Document.get key entries).int? := by
  unfold limit?
  cases Document.get key entries with
  | scalar s => cases s <;> rfl
  | _ => rfl

theorem eq_of_limit? {n : Option Int} (h : limit? key entries = .ok n) :
    n = (Document.get key entries).limit? := by
  rw [limit?_eq] at h
  rw [Document.limit?]
  by_cases htruth : (Document.get key entries).isTruth = true
  · rw [if_pos htruth] at h
    rw [if_pos htruth]
    cases h
    rfl
  · rw [if_neg htruth] at h
    rw [if_neg htruth]
    exact eq_of_int? h

theorem isResult_of_metricResult {r : MetricResult} (h : metricResult entries = .ok r) :
    IsResult entries r := by
  simp only [metricResult, bind_eq_ok_iff] at h
  obtain ⟨_, -, _, -, _, hfailed, _, herror, _, hinconclusive, _, hsuccessful, _, hconsecutive,
    _, hcount, _, -, _, hmeasurements, hr⟩ := h
  cases hr
  constructor
  · simp only [AreCounts, MetricResult.counts, List.forall_mem_cons]
    exact ⟨eq_of_count hfailed, eq_of_count herror, eq_of_count hinconclusive,
      eq_of_count hsuccessful, eq_of_count hconsecutive, eq_of_count hcount, nofun⟩
  · exact mapM_eq_ok_iff.mp hmeasurements

theorem areLimits_of_metricSpec {m : MetricSpec} (h : metricSpec entries = .ok m) :
    AreLimits entries m.limits := by
  simp only [metricSpec, bind_eq_ok_iff] at h
  obtain ⟨_, -, _, -, _, -, _, -, _, hconsecutive, _, hfailure, _, hinconclusive, hm⟩ := h
  cases hm
  simp only [AreLimits, MetricSpec.limits, List.forall_mem_cons]
  exact ⟨eq_of_limit? hconsecutive, eq_of_limit? hfailure, eq_of_limit? hinconclusive, nofun⟩

theorem areCounts_of_summary {s : RunSummary} (h : summary entries = .ok s) :
    AreCounts entries s.counts := by
  simp only [summary, bind_eq_ok_iff] at h
  obtain ⟨_, hcount, _, hsuccessful, _, hfailed, _, hinconclusive, _, herror, hs⟩ := h
  cases hs
  simp only [AreCounts, RunSummary.counts, List.forall_mem_cons]
  exact ⟨eq_of_count hcount, eq_of_count hsuccessful, eq_of_count hfailed,
    eq_of_count hinconclusive, eq_of_count herror, nofun⟩

theorem isSpec_of_spec {s : RunSpec} (h : spec entries = .ok s) : IsSpec entries s := by
  simp only [spec, bind_eq_ok_iff] at h
  obtain ⟨_, hmetrics, _, hargs, hs⟩ := h
  cases hs
  constructor
  · exact (mapM_eq_ok_iff.mp hmetrics).imp fun _ _ => areLimits_of_metricSpec
  · exact mapM_eq_ok_iff.mp hargs

theorem isStatus_of_status {s : RunStatus} (h : status entries = .ok s) : IsStatus entries s := by
  simp only [status, bind_eq_ok_iff] at h
  obtain ⟨_, -, _, -, _, hresults, _, hsummary, _, -, hs⟩ := h
  cases hs
  constructor
  · exact (mapM_eq_ok_iff.mp hresults).imp fun _ _ => isResult_of_metricResult
  · exact areCounts_of_summary hsummary

theorem rel_of_part? {α : Type} {read : Entries → Except Fault α} {R : Entries → α → Prop}
    {d : Document} {part : Option α} (hread : ∀ e a, read e = .ok a → R e a)
    (h : part? read d = .ok part) : Option.Rel R d.entries? part := by
  unfold part? at h
  cases hentries : d.entries? with
  | none =>
    rw [hentries] at h
    cases h
    exact .none
  | some entries =>
    rw [hentries] at h
    dsimp only at h
    cases hpart : read entries with
    | error f =>
      rw [hpart] at h
      cases h
    | ok a =>
      rw [hpart] at h
      cases h
      exact .some (hread entries a hpart)

theorem isReadFrom_of_ofEntries {run : Run} (h : ofEntries entries = .ok run) :
    IsReadFrom entries run := by
  simp only [ofEntries, snapshotOf, bind_eq_ok_iff] at h
  obtain ⟨_, -, _, -, _, ⟨_, hspec, _, hstatus, hsnapshot⟩, hrun⟩ := h
  cases hsnapshot
  cases hrun
  constructor
  · exact rel_of_part? (fun _ _ => isSpec_of_spec) hspec
  · exact rel_of_part? (fun _ _ => isStatus_of_status) hstatus

end

/-! ### Mappings from JSON -/

def HasJson (parts : List Part) : Prop := ∀ p ∈ parts, p.document.IsJson

section

open Document (AreJson)

variable {entries : Entries} {d : Document}

theorem HasJson.append {here there : List Part} (h : HasJson here) (h' : HasJson there) :
    HasJson (here ++ there) :=
  List.forall_mem_append.mpr ⟨h, h'⟩

theorem hasJson_texts (h : AreJson entries) (keys : List String) :
    HasJson (texts keys entries) := by
  intro p hp
  obtain ⟨key, -, rfl⟩ := List.mem_map.mp hp
  exact h.get key

theorem hasJson_counts (h : AreJson entries) (keys : List String) :
    HasJson (counts keys entries) := by
  intro p hp
  obtain ⟨key, -, rfl⟩ := List.mem_map.mp hp
  exact h.get key

theorem hasJson_flatMap {partsOf : Entries → List Part} {records : List Entries}
    (hrecords : ∀ e ∈ records, AreJson e) (hparts : ∀ e, AreJson e → HasJson (partsOf e)) :
    HasJson (records.flatMap partsOf) := by
  intro p hp
  obtain ⟨e, he, hpe⟩ := List.mem_flatMap.mp hp
  exact hparts e (hrecords e he) p hpe

theorem hasJson_records {partsOf : Entries → List Part} (hd : d.IsJson)
    (hparts : ∀ e, AreJson e → HasJson (partsOf e)) : HasJson (d.records.flatMap partsOf) :=
  hasJson_flatMap (fun _ he => hd.areJson_of_mem_records he) hparts

theorem hasJson_entries? {partsOf : Entries → List Part} (hd : d.IsJson)
    (hparts : ∀ e, AreJson e → HasJson (partsOf e)) :
    HasJson (d.entries?.toList.flatMap partsOf) :=
  hasJson_flatMap (fun _ he => hd.areJson_entries? (Option.mem_toList.mp he)) hparts

theorem hasJson_measurementParts (entries : Entries) (h : AreJson entries) :
    HasJson (measurementParts entries) := by
  apply (hasJson_texts h _).append
  rintro p (_ | ⟨_, hp⟩)
  · exact h.get "value"
  · exact hasJson_texts h _ p hp

theorem hasJson_metricResultParts (entries : Entries) (h : AreJson entries) :
    HasJson (metricResultParts entries) := by
  apply HasJson.append
  · exact ((hasJson_texts h _).append (hasJson_counts h _)).append (hasJson_texts h _)
  · exact hasJson_records (h.get "measurements") hasJson_measurementParts

theorem hasJson_metricSpecParts (entries : Entries) (h : AreJson entries) :
    HasJson (metricSpecParts entries) := by
  apply HasJson.append
  · apply (hasJson_texts h _).append
    rintro p (_ | ⟨_, hp⟩)
    · exact h.get "provider"
    · exact hasJson_texts h _ p hp
  · exact hasJson_counts h _

theorem hasJson_specParts (entries : Entries) (h : AreJson entries) :
    HasJson (specParts entries) := by
  apply HasJson.append
  · exact hasJson_records (h.get "metrics") hasJson_metricSpecParts
  · exact hasJson_records (h.get "args") fun e he => hasJson_texts he _

theorem hasJson_statusParts (entries : Entries) (h : AreJson entries) :
    HasJson (statusParts entries) := by
  apply HasJson.append
  · apply HasJson.append
    · apply (hasJson_texts h _).append
      exact hasJson_records (h.get "metricResults") hasJson_metricResultParts
    · exact hasJson_counts (h.get "runSummary").areJson_entries _
  · exact hasJson_texts h _

theorem hasJson_parts (h : AreJson entries) : HasJson (parts entries) := by
  have habout := (h.get "objectMeta").orElse (h.get "metadata")
  have hsnapshot : AreJson ((Document.get "specAndStatus" entries).entries?.getD entries) := by
    cases hentries : (Document.get "specAndStatus" entries).entries? with
    | none => exact h
    | some inner => exact (h.get "specAndStatus").areJson_entries? hentries
  apply (hasJson_texts habout.areJson_entries _).append
  apply HasJson.append
  · exact hasJson_entries? (hsnapshot.get "spec") hasJson_specParts
  · exact hasJson_entries? (hsnapshot.get "status") hasJson_statusParts

end

theorem Part.faults_of_isJson {p : Part} (h : p.document.IsJson) :
    p.faults = [] ∨ ∃ d, p = .count d ∧ d.isInfinite = true ∧ p.faults = [.infiniteCount] := by
  cases p with
  | text d => exact .inl h.textFaults_eq_nil
  | value d => exact .inl h.jsonFaults_eq_nil
  | provider d => exact .inl (Provider.faults_eq_nil h)
  | count d =>
    rw [faults, Document.countFaults]
    split
    · rename_i hinfinite
      exact .inr ⟨d, rfl, hinfinite, rfl⟩
    · exact .inl rfl

section

variable {ps : List Part}

theorem HasJson.faults_eq_nil_iff (h : HasJson ps) :
    (∀ p ∈ ps, p.faults = []) ↔ ∀ c, .count c ∈ ps → c.isInfinite = false := by
  constructor
  · intro hnone c hc
    have hcount := hnone _ hc
    rw [Part.faults, Document.countFaults] at hcount
    cases hinfinite : c.isInfinite with
    | false => rfl
    | true =>
      rw [hinfinite] at hcount
      cases hcount
  · intro hfinite p hp
    rcases Part.faults_of_isJson (h p hp) with hnone | ⟨c, rfl, hinfinite, -⟩
    · exact hnone
    · rw [hfinite c hp] at hinfinite
      cases hinfinite

theorem HasJson.eq_infiniteCount_of_mem (h : HasJson ps) {f : Fault}
    (hf : f ∈ ps.flatMap Part.faults) : f = .infiniteCount := by
  obtain ⟨p, hp, hmem⟩ := List.mem_flatMap.mp hf
  rcases Part.faults_of_isJson (h p hp) with hnone | ⟨c, -, -, hfault⟩
  · rw [hnone] at hmem
    cases hmem
  · rw [hfault] at hmem
    exact List.mem_singleton.mp hmem

end

/-! ### The outcome -/

/-- A mapping is read to a run unless a part of it has a fault; the first fault ends the reading.
In a mapping that JSON can hold, the only faults are infinite counts and limits. -/
theorem ofDocument_outcome {d : Document} {entries : Entries} (hd : d.entries? = some entries) :
    ((∃ run, ofDocument d = .ok run) ↔ ∀ p ∈ parts entries, p.faults = []) ∧
    (∀ f, ofDocument d = .error f ↔ ((parts entries).flatMap Part.faults).head? = some f) ∧
    (∀ text, Document.ofJsonText text = .ok d →
      ((∃ run, ofDocument d = .ok run) ↔
        ∀ c, .count c ∈ parts entries → c.isInfinite = false) ∧
      ∀ f, ofDocument d = .error f → f = .infiniteCount) ∧
    ∀ run, ofDocument d = .ok run → IsReadFrom entries run := by
  have hreads : EndsAtFirst (ofDocument d) ((parts entries).flatMap Part.faults) := by
    rw [ofDocument, hd]
    exact ofEntries_reads entries
  have hsuccess : (∃ run, ofDocument d = .ok run) ↔ ∀ p ∈ parts entries, p.faults = [] := by
    rw [hreads.exists_ok_iff, List.flatMap_eq_nil_iff]
  refine ⟨hsuccess, hreads, ?_, ?_⟩
  · intro text htext
    have hjson := hasJson_parts ((Document.isJson_of_ofJsonText htext).areJson_entries? hd)
    constructor
    · rw [hsuccess]
      exact hjson.faults_eq_nil_iff
    · intro f hf
      exact hjson.eq_infiniteCount_of_mem (List.mem_of_mem_head? ((hreads f).mp hf))
  · intro run hrun
    rw [ofDocument, hd] at hrun
    exact isReadFrom_of_ofEntries hrun

def unusable : Entries :=
  [(.text "metadata", .scalar (.bool true)), (.text "spec", .list []),
    (.text "status", .mapping [
      (.text "metricResults", .list [.null, .mapping [(.text "count", .scalar (.text "many")),
        (.text "failed", .scalar (.float .nan)), (.text "measurements", .scalar (.text "none"))]]),
      (.text "runSummary", .scalar (.text "none"))])]

def infiniteText : String := "\x7b\"status\":\x7b\"runSummary\":\x7b\"count\":Infinity\x7d\x7d\x7d"

def infiniteJson : Json :=
  .obj [("status", .obj [("runSummary", .obj [("count", .float (.infinite false))])])]

section

open Json.Reader

theorem value_infinity (fuel room : Nat) (rest : List Char) :
    value .allowed (fuel + 1) room ('I' :: ("nfinity".toList ++ rest)) =
      .ok (.float (.infinite false), rest) := by
  unfold value
  rfl

theorem ofJsonText_infiniteText :
    Document.ofJsonText infiniteText = .ok (Document.ofJson infiniteJson) := by
  have hlist : infiniteText.toList = '{' :: '"' :: ("status".toList ++ '"' :: ':' :: '{' :: '"' ::
      ("runSummary".toList ++ '"' :: ':' :: '{' :: '"' :: ("count".toList ++ '"' :: ':' :: 'I' ::
        ("nfinity".toList ++ ['}', '}', '}'])))) := by decide
  have hvalue : value .allowed 89 depthLimit infiniteText.toList = .ok (infiniteJson, []) := by
    rw [hlist]
    refine value_object (fields_last (by decide) rfl ?_) (by simp)
    refine value_object (fields_last (by decide) rfl ?_) (by simp)
    exact value_object (fields_last (by decide) rfl (value_infinity _ _ _)) (by simp)
  have hgap : skipGap infiniteText.toList = infiniteText.toList := by decide
  have hlength : 2 * infiniteText.toList.length + 1 = 89 := by decide
  have hread : Json.read .allowed infiniteText = .ok infiniteJson := by
    unfold Json.read
    dsimp only
    rw [hgap, hlength, hvalue]
    rfl
  rw [Document.ofJsonText, hread]
  rfl

end

theorem ofDocument_outcome_samples :
    (∃ run, ofDocument (.mapping unusable) = .ok run ∧ IsReadFrom unusable run) ∧
    ∃ d entries, Document.ofJsonText infiniteText = .ok d ∧ d.entries? = some entries ∧
      ofDocument d = .error .infiniteCount ∧
      ∃ c, .count c ∈ parts entries ∧ c.isInfinite = true := by
  constructor
  · obtain ⟨hsuccess, -, -, hrun⟩ := ofDocument_outcome (d := .mapping unusable) rfl
    have hnone : (parts unusable).flatMap Part.faults = [] := rfl
    obtain ⟨run, h⟩ := hsuccess.mpr (List.flatMap_eq_nil_iff.mp hnone)
    exact ⟨run, h, hrun run h⟩
  · obtain ⟨-, hfault, hjson, -⟩ := ofDocument_outcome (d := Document.ofJson infiniteJson) rfl
    have hends : ofDocument (Document.ofJson infiniteJson) = .error .infiniteCount :=
      (hfault _).mpr rfl
    have hnot : ¬ ∃ run, ofDocument (Document.ofJson infiniteJson) = .ok run := by
      rintro ⟨run, hrun⟩
      rw [hends] at hrun
      cases hrun
    rw [(hjson _ ofJsonText_infiniteText).1] at hnot
    push Not at hnot
    obtain ⟨c, hc, hinfinite⟩ := hnot
    rw [ne_eq, Bool.not_eq_false] at hinfinite
    exact ⟨_, _, ofJsonText_infiniteText, rfl, hends, c, hc, hinfinite⟩

end Run

end RunCharts
