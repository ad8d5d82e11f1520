import Mathlib.Data.List.Basic
import RunCharts.Entries
import RunCharts.Proofs.Traversal
import RunCharts.Run.Document

/-!
# One measurement of a payload

A site is a place for the value of one measurement in the payload of a run, with everything around
it. Nothing of the run that is read depends on what is put there but the value of that measurement.
-/

namespace RunCharts

namespace Document

theorem beq_text_iff {k : Scalar} {s : String} : (k == .text s) = true ↔ k = .text s := by
  have hform : k.keyForm = .text s ↔ k = .text s := by
    cases k with
    | float x =>
      rw [Scalar.keyForm]
      split <;> simp
    | _ => simp [Scalar.keyForm]
  have htext : (Scalar.text s).keyForm = .text s := rfl
  change Scalar.sameKey k (.text s) = true ↔ _
  unfold Scalar.sameKey
  split
  · contradiction
  · rw [Bool.and_eq_true, decide_eq_true_eq, decide_eq_true_eq, htext, hform]
    exact and_iff_left_of_imp fun h => by simp [h, htext]

variable {key other : String} {d : Document} {entries : List (Scalar × Document)}

theorem get_upsert_self (key : String) (d : Document) (entries : List (Scalar × Document)) :
    get key (upsert (.text key) d entries) = d := by
  induction entries with
  | nil => simp [upsert, get]
  | cons e entries ih =>
    obtain ⟨k, value⟩ := e
    by_cases hk : k = .text key
    · simp [upsert, get, beq_text_iff, hk]
    · simp [upsert, get, beq_text_iff, hk, ih]

theorem get_upsert_of_ne (h : other ≠ key) (d : Document) (entries : List (Scalar × Document)) :
    get other (upsert (.text key) d entries) = get other entries := by
  induction entries with
  | nil => simp [upsert, get, Ne.symm h]
  | cons e entries ih =>
    obtain ⟨k, value⟩ := e
    by_cases hk : k = .text key
    · simp [upsert, get, beq_text_iff, hk, Ne.symm h]
    · simp [upsert, get, beq_text_iff, hk, ih]

/-- The mappings of a list around one of them. -/
theorem records_around (before after : List Document) (entries : List (Scalar × Document)) :
    (list (before ++ mapping entries :: after)).records =
      before.filterMap entries? ++ entries :: after.filterMap entries? := by
  simp [records, items?, opened, entries?]

end Document

namespace Run

open Traversal

/-- Whether a document is read as a value where it stands for the value of a measurement. -/
def IsReadAs (d : Document) (value : Option String) : Prop :=
  ∀ entries, Document.get "value" entries = d → value? entries = .ok value

/-- A place for the value of one measurement in a payload, with all that is around it. Spec and
status stand in an entry of their own if there is a wrapper. -/
structure Site where
  wrapper : Option Entries
  parts : Entries
  status : Entries
  result : Entries
  measurement : Entries
  resultsBefore : List Document
  resultsAfter : List Document
  before : List Document
  after : List Document
  /-- Without a wrapper there is no entry that is taken for one. -/
  unwrapped : wrapper = none → (Document.get "specAndStatus" parts).entries? = none

namespace Site

variable (site : Site) (d : Document)

def measurementWith : Entries := upsert (.text "value") d site.measurement

def resultWith : Entries := upsert (.text "measurements")
  (.list (site.before ++ .mapping (site.measurementWith d) :: site.after)) site.result

def statusWith : Entries := upsert (.text "metricResults")
  (.list (site.resultsBefore ++ .mapping (site.resultWith d) :: site.resultsAfter)) site.status

def partsWith : Entries := upsert (.text "status") (.mapping (site.statusWith d)) site.parts

def entriesWith : Entries :=
  match site.wrapper with
  | none => site.partsWith d
  | some wrapper => upsert (.text "specAndStatus") (.mapping (site.partsWith d)) wrapper

def payload : Document := .mapping (site.entriesWith d)

def resultPlace : Nat := (site.resultsBefore.filterMap Document.entries?).length

def place : Nat := (site.before.filterMap Document.entries?).length

def measurement? (run : Run) : Option Measurement := do
  let status ← run.snapshot.status
  let result ← status.results[site.resultPlace]?
  result.measurements[site.place]?

variable (value : Option String)

def setResult (r : MetricResult) : MetricResult :=
  { r with measurements := r.measurements.modify site.place fun m => { m with value } }

def setStatus (s : RunStatus) : RunStatus :=
  { s with results := s.results.modify site.resultPlace (site.setResult value) }

def setValue (run : Run) : Run :=
  { run with snapshot.status := run.snapshot.status.map (site.setStatus value) }

variable {d value}

theorem get_measurementWith {key : String} (h : key ≠ "value") (d : Document) :
    Document.get key (site.measurementWith d) = Document.get key site.measurement :=
  Document.get_upsert_of_ne h d _

theorem measurement_measurementWith (h : IsReadAs d value) :
    Run.measurement (site.measurementWith d) =
      (Run.measurement (site.measurementWith .null)).map fun m => { m with value } := by
  have hvalue : value? (site.measurementWith d) = .ok value := h _ (Document.get_upsert_self ..)
  have hnull : value? (site.measurementWith .null) = .ok none := by
    rw [value?, measurementWith, Document.get_upsert_self]
  unfold Run.measurement phase textOr text?
  simp only [hvalue, hnull, get_measurementWith, ne_eq, String.reduceEq, not_false_eq_true,
    map_bind]
  rfl

theorem get_resultWith {key : String} (h : key ≠ "measurements") (d : Document) :
    Document.get key (site.resultWith d) = Document.get key site.result :=
  Document.get_upsert_of_ne h _ _

theorem records_resultWith (d : Document) :
    (Document.get "measurements" (site.resultWith d)).records =
      site.before.filterMap Document.entries? ++ site.measurementWith d ::
        site.after.filterMap Document.entries? := by
  rw [resultWith, Document.get_upsert_self, Document.records_around]

theorem metricResult_resultWith (h : IsReadAs d value) : metricResult (site.resultWith d) =
      (metricResult (site.resultWith .null)).map (site.setResult value) := by
  have hread := mapM_around (site.measurement_measurementWith h)
    (site.before.filterMap Document.entries?) (site.after.filterMap Document.entries?)
  unfold metricResult phase textOr text? count
  simp only [records_resultWith, hread, get_resultWith, ne_eq, String.reduceEq, not_false_eq_true,
    map_bind, bind_map]
  rfl

theorem get_statusWith {key : String} (h : key ≠ "metricResults") (d : Document) :
    Document.get key (site.statusWith d) = Document.get key site.status :=
  Document.get_upsert_of_ne h _ _

theorem records_statusWith (d : Document) :
    (Document.get "metricResults" (site.statusWith d)).records =
      site.resultsBefore.filterMap Document.entries? ++ site.resultWith d ::
        site.resultsAfter.filterMap Document.entries? := by
  rw [statusWith, Document.get_upsert_self, Document.records_around]

theorem status_statusWith (h : IsReadAs d value) : Run.status (site.statusWith d) =
      (Run.status (site.statusWith .null)).map (site.setStatus value) := by
  have hread := mapM_around (site.metricResult_resultWith h)
    (site.resultsBefore.filterMap Document.entries?)
    (site.resultsAfter.filterMap Document.entries?)
  unfold Run.status phase textOr text?
  simp only [records_statusWith, hread, get_statusWith, ne_eq, String.reduceEq, not_false_eq_true,
    map_bind, bind_map]
  rfl

theorem snapshotOf_partsWith (h : IsReadAs d value) : snapshotOf (site.partsWith d) =
    (snapshotOf (site.partsWith .null)).map fun s =>
      { s with status := s.status.map (site.setStatus value) } := by
  have hstatus : ∀ d, (Document.get "status" (site.partsWith d)).entries? =
      some (site.statusWith d) := by
    intro d
    rw [partsWith, Document.get_upsert_self]
    rfl
  have hget : ∀ d, Document.get "spec" (site.partsWith d) = Document.get "spec" site.parts :=
    fun d => Document.get_upsert_of_ne (by decide) _ _
  have hread := site.status_statusWith h
  unfold snapshotOf
  simp only [part?, hstatus, hget, hread, map_bind]
  cases Run.status (site.statusWith .null) <;> rfl

theorem get_entriesWith {key : String} (h : key ≠ "status") (h' : key ≠ "specAndStatus")
    (d : Document) : Document.get key (site.entriesWith d) =
      Document.get key (site.wrapper.getD site.parts) := by
  unfold entriesWith
  cases site.wrapper with
  | none => exact Document.get_upsert_of_ne h _ _
  | some wrapper => exact Document.get_upsert_of_ne h' _ _

/-- The part of the payload from which spec and status are read. -/
theorem parts_entriesWith (d : Document) :
    (Document.get "specAndStatus" (site.entriesWith d)).entries?.getD (site.entriesWith d) =
      site.partsWith d := by
  unfold entriesWith
  cases hwrapper : site.wrapper with
  | none =>
    have hget : Document.get "specAndStatus" (site.partsWith d) =
        Document.get "specAndStatus" site.parts := Document.get_upsert_of_ne (by decide) _ _
    dsimp only
    rw [hget, site.unwrapped hwrapper]
    rfl
  | some wrapper =>
    dsimp only
    rw [Document.get_upsert_self]
    rfl

theorem ofDocument_payload (h : IsReadAs d value) : ofDocument (site.payload d) =
    (ofDocument (site.payload .null)).map (site.setValue value) := by
  have hpayload : ∀ d, (site.payload d).entries? = some (site.entriesWith d) := fun _ => rfl
  unfold ofDocument ofEntries text?
  simp only [hpayload, site.parts_entriesWith, site.get_entriesWith, ne_eq, String.reduceEq,
    not_false_eq_true, site.snapshotOf_partsWith h, map_bind, bind_map]
  rfl

/-- A run that was read from the payload has the measurement. -/
theorem exists_measurement {run : Run} (h : ofDocument (site.payload d) = .ok run) :
    ∃ m, site.measurement? run = some m ∧ Run.measurement (site.measurementWith d) = .ok m := by
  have hstatusPart : (Document.get "status" (site.partsWith d)).entries? =
      some (site.statusWith d) := by
    rw [partsWith, Document.get_upsert_self]
    rfl
  have hentries : ofEntries (site.entriesWith d) = .ok run := h
  simp only [ofEntries, site.parts_entriesWith, snapshotOf, part?, hstatusPart, bind_eq_ok_iff]
    at hentries
  obtain ⟨_, -, _, -, snapshot, ⟨_, -, status?, hstatus, hsnapshot⟩, hrun⟩ := hentries
  cases hread : Run.status (site.statusWith d) with
  | error e =>
    rw [hread] at hstatus
    cases hstatus
  | ok status =>
    rw [hread] at hstatus
    cases hstatus
    cases hsnapshot
    cases hrun
    simp only [Run.status, bind_eq_ok_iff] at hread
    obtain ⟨_, -, _, -, results, hresults, _, -, _, -, hstatus⟩ := hread
    cases hstatus
    rw [records_statusWith] at hresults
    obtain ⟨result, hplace, hresult⟩ := exists_getElem?_of_mapM hresults
    simp only [metricResult, bind_eq_ok_iff] at hresult
    obtain ⟨_, -, _, -, _, -, _, -, _, -, _, -, _, -, _, -, _, -, measurements, hmeasurements,
      hfields⟩ := hresult
    cases hfields
    rw [records_resultWith] at hmeasurements
    obtain ⟨m, hm, hmeasurement⟩ := exists_getElem?_of_mapM hmeasurements
    refine ⟨m, ?_, hmeasurement⟩
    simp [measurement?, resultPlace, place, hplace, hm]

theorem setValue_setValue (value value' : Option String) (run : Run) :
    site.setValue value (site.setValue value' run) = site.setValue value run := by
  simp only [setValue, setStatus, setResult, Option.map_map, Function.comp_def,
    List.modify_modify_eq]
  rfl

theorem measurement?_setValue (value : Option String) (run : Run) :
    site.measurement? (site.setValue value run) =
      (site.measurement? run).map fun m => { m with value } := by
  unfold measurement? setValue
  cases run.snapshot.status with
  | none => rfl
  | some status =>
    simp only [Option.map_some, Option.bind_eq_bind, Option.bind_some, setStatus,
      List.getElem?_modify_eq]
    cases status.results[site.resultPlace]? with
    | none => rfl
    | some result =>
      simp only [Option.map_eq_map, Option.map_some, Option.bind_some, setResult,
        List.getElem?_modify_eq]

end Site

end Run

end RunCharts
